import Pkcs11Proxy.Server.MintCompletion

namespace Pkcs11Proxy.Server

open Lib Pkcs11Proxy.Types

def WorkerPhase.outcome {P : Type} : WorkerPhase P → Option (Except CkRv P)
  | .reported outcome | .returned outcome => some outcome
  | .running | .refused => none

theorem armed_receiving {P : Type} {run : MintRun P} (armed : run.armed = true) : run.receiving = true := by
  rw [MintRun.receiving, armed]
  rfl

variable {incarnation : Option UInt64}

section Custody

variable {P : Type} [LateMintSettlement P]

def MintRun.settlementOf (run : MintRun P) (payload : P) : List P :=
  let bound := LateMintSettlement.bindIncarnation payload run.incarnation
  if LateMintSettlement.isEmpty bound then [] else [bound]

def MintRun.delivery (run : MintRun P) : List P :=
  match run.channel with
  | .full (.ok payload) => run.settlementOf payload
  | _ => []

inductive Custody (run : MintRun P) (payload : P) : Prop where
  | waiting (receiving : run.receiving = true) (channel : run.channel = .full (.ok payload)) (unadopted : run.adopted = [])
      (unsettled : run.settled = [])
  | adopted (receiving : run.receiving = false) (adopted : run.adopted = [payload]) (unsettled : run.settled = [])
  | settled (receiving : run.receiving = false) (unadopted : run.adopted = []) (settled : run.settled = run.settlementOf payload)

structure MintInv (run : MintRun P) : Prop where
  armed : run.armed = true → run.settler = .idle ∧ run.handler ≠ .gone
  settling : run.settler ≠ .idle → run.handler = .gone
  running : run.worker = .running → run.receiving = true ∧ run.channel = .empty
  nothing : (∀ payload, run.worker.outcome ≠ some (.ok payload)) → run.adopted = [] ∧ run.settled = [] ∧ ∀ payload,
    run.channel ≠ .full (.ok payload)
  minted : ∀ payload, run.worker.outcome = some (.ok payload) → Custody run payload
  awaiting : run.handler = .awaiting → run.armed = true
  consumed : ∀ payload, run.handler = .consumed payload → run.worker.outcome = some (.ok payload) ∧ run.armed = true

theorem mint_inv_armed : MintInv (MintRun.armForSession incarnation : MintRun P) where
  armed _ := ⟨rfl, by rintro ⟨⟩⟩
  settling impossible := absurd rfl impossible
  running _ := ⟨rfl, rfl⟩
  nothing _ := ⟨rfl, rfl, by rintro _ ⟨⟩⟩
  minted _ impossible := by cases impossible
  awaiting _ := rfl
  consumed _ impossible := by cases impossible

theorem custody_same {next : MintRun P} (run : MintRun P) (payload : P) (receiving : next.receiving = run.receiving)
    (channel : next.channel = run.channel)
    (adopted : next.adopted = run.adopted) (settled : next.settled = run.settled) (incarnation : next.incarnation = run.incarnation)
    (custody : Custody run payload) : Custody next payload := by
  cases custody with
  | waiting present full unadopted unsettled =>
    exact .waiting (receiving.trans present) (channel.trans full) (adopted.trans unadopted) (settled.trans unsettled)
  | adopted absent taken unsettled => exact .adopted (receiving.trans absent) (adopted.trans taken) (settled.trans unsettled)
  | settled absent unadopted handed =>
    refine .settled (receiving.trans absent) (adopted.trans unadopted) ?_
    rw [settled, handed, MintRun.settlementOf, MintRun.settlementOf, incarnation]

section Invariant

variable {run : MintRun P} (inv : MintInv run) {payload : P}

theorem custody_waiting (custody : Custody run payload) (present : run.receiving = true) :
    run.channel = .full (.ok payload) ∧ run.adopted = [] ∧ run.settled = [] := by
  cases custody with
  | waiting _ full unadopted unsettled => exact ⟨full, unadopted, unsettled⟩
  | adopted absent | settled absent => rw [present] at absent; cases absent

theorem spawn_settlement_eq (payload : P) :
    run.spawnSettlement payload = { run with settled := run.settled ++ run.settlementOf payload } := by
  rw [MintRun.spawnSettlement, MintRun.settlementOf]
  split
  · rw [List.append_nil]
  · rfl

theorem no_delivery (empty : ∀ payload, run.channel ≠ .full (.ok payload)) : run.delivery = [] := by
  rw [MintRun.delivery]
  split
  · rename_i payload full
    exact absurd full (empty payload)
  · rfl

include inv

variable {next : MintRun P}

theorem mint_inv_received (worker : next.worker = run.worker) (unread : run.channel ≠ .empty)
    (drained : next.channel = .taken ∨ next.channel = .closed) (replied : next.handler = .replying ∨ next.handler = .gone)
    (armed : next.armed = false) (settler : next.settler = .idle ∨ next.settler = .finished ∧ next.handler = .gone)
    (adopted : next.adopted = run.adopted) (incarnation : next.incarnation = run.incarnation) (present : run.receiving = true)
    (settled : next.settled = run.settled ++ run.delivery) : MintInv next where
  armed impossible := by rw [armed] at impossible; cases impossible
  settling busy := (settler.resolve_left busy).2
  running still := by
    rw [worker] at still
    exact absurd (inv.running still).2 unread
  nothing none := by
    rw [worker] at none
    obtain ⟨unadopted, clean, empty⟩ := inv.nothing none
    refine ⟨adopted.trans unadopted, ?_, fun payload full => ?_⟩
    · rw [settled, clean, no_delivery empty]
      rfl
    · rcases drained with gone | gone <;> rw [gone] at full <;> cases full
  minted payload outcome := by
    rw [worker] at outcome
    obtain ⟨full, unadopted, clean⟩ := custody_waiting (inv.minted payload outcome) present
    refine .settled ?_ (adopted.trans unadopted) ?_
    · rw [MintRun.receiving, armed]
      rcases settler with idle | ⟨finished, -⟩
      · rw [idle]
        rfl
      · rw [finished]
        rfl
    · rw [settled, clean, List.nil_append, MintRun.delivery, full]
      dsimp only
      rw [MintRun.settlementOf, MintRun.settlementOf, incarnation]
  awaiting impossible := by rcases replied with phase | phase <;> rw [phase] at impossible <;> cases impossible
  consumed payload impossible := by rcases replied with phase | phase <;> rw [phase] at impossible <;> cases impossible

theorem mint_inv_handler {handler : HandlerPhase P} (present : run.handler ≠ .gone) (stays : handler ≠ .gone)
    (awaiting : handler = .awaiting → run.armed = true)
    (consumed : ∀ payload, handler = .consumed payload → run.worker.outcome = some (.ok payload) ∧ run.armed = true) :
    MintInv { run with handler := handler } where
  armed armed := ⟨(inv.armed armed).1, stays⟩
  settling waiting := absurd (inv.settling waiting) present
  running := inv.running
  nothing := inv.nothing
  minted payload outcome := custody_same run payload rfl rfl rfl rfl rfl (inv.minted payload outcome)
  awaiting := awaiting
  consumed := consumed

theorem mint_inv_replying (present : run.handler ≠ .gone) : MintInv { run with handler := .replying } :=
  mint_inv_handler inv present nofun nofun nofun

theorem mint_inv_settled_on_error (failed : run.handler = .failed) : MintInv { run.settleOnError with handler := .replying } := by
  have present : run.handler ≠ .gone := by rw [failed]; rintro ⟨⟩
  rw [MintRun.settleOnError]
  split
  · rename_i armed
    have idle := (inv.armed armed).1
    cases channel : run.channel with
    | empty => exact mint_inv_replying inv present
    | full outcome =>
      cases outcome with
      | error rv =>
        refine mint_inv_received inv rfl (by rw [channel]; rintro ⟨⟩) (.inl rfl) (.inl rfl) rfl (.inl idle) rfl rfl
          (armed_receiving armed) ?_
        rw [MintRun.delivery, channel, List.append_nil]
      | ok payload =>
        dsimp only
        rw [spawn_settlement_eq]
        refine mint_inv_received inv rfl (by rw [channel]; rintro ⟨⟩) (.inl rfl) (.inl rfl) rfl (.inl idle) rfl rfl
          (armed_receiving armed) ?_
        rw [MintRun.delivery, channel]
        rfl
    | taken =>
      refine mint_inv_received inv rfl (by rw [channel]; rintro ⟨⟩) (.inl channel) (.inl rfl) rfl (.inl idle) rfl rfl
        (armed_receiving armed) ?_
      rw [MintRun.delivery, channel, List.append_nil]
      rfl
    | closed =>
      refine mint_inv_received inv rfl (by rw [channel]; rintro ⟨⟩) (.inr channel) (.inl rfl) rfl (.inl idle) rfl rfl
        (armed_receiving armed) ?_
      rw [MintRun.delivery, channel, List.append_nil]
      rfl
  · exact mint_inv_replying inv present

theorem mint_inv_woken (waiting : run.settler = .waiting) (taken : mintStep run .settlerWakes = some next) :
    MintInv next ∧ next.settler = .finished ∧ next.handler = run.handler ∧ next.worker = run.worker := by
  have gone : run.handler = .gone := inv.settling (by rw [waiting]; rintro ⟨⟩)
  have disarmed : run.armed = false := by
    rw [← Bool.not_eq_true]
    intro armed
    rw [(inv.armed armed).1] at waiting
    cases waiting
  have received : run.receiving = true := by
    rw [MintRun.receiving, waiting, disarmed]
    rfl
  rw [mintStep, waiting] at taken
  cases channel : run.channel with
  | empty | taken => rw [channel] at taken; cases taken
  | closed =>
    rw [channel] at taken
    cases taken
    refine ⟨mint_inv_received inv rfl (by rw [channel]; rintro ⟨⟩) (.inr rfl) (.inr gone) disarmed (.inr ⟨rfl, gone⟩) rfl rfl
      received ?_, rfl, rfl, rfl⟩
    rw [MintRun.delivery, channel, List.append_nil]
  | full outcome =>
    rw [channel] at taken
    cases outcome with
    | error rv =>
      cases taken
      refine ⟨mint_inv_received inv rfl (by rw [channel]; rintro ⟨⟩) (.inl rfl) (.inr gone) disarmed (.inr ⟨rfl, gone⟩) rfl rfl
        received ?_, rfl, rfl, rfl⟩
      rw [MintRun.delivery, channel, List.append_nil]
    | ok payload =>
      dsimp only at taken
      rw [spawn_settlement_eq] at taken
      cases taken
      refine ⟨mint_inv_received inv rfl (by rw [channel]; rintro ⟨⟩) (.inl rfl) (.inr gone) disarmed (.inr ⟨rfl, gone⟩) rfl rfl
        received ?_, rfl, rfl, rfl⟩
      rw [MintRun.delivery, channel]
      rfl

theorem mint_inv_reported (running : run.worker = .running) {outcome : Except CkRv P} : MintInv (run.report outcome) := by
  obtain ⟨present, -⟩ := inv.running running
  obtain ⟨unadopted, unsettled, -⟩ := inv.nothing (by rw [running]; rintro _ ⟨⟩)
  rw [MintRun.report, if_pos present]
  refine ⟨inv.armed, inv.settling, nofun, fun none => ⟨unadopted, unsettled, ?_⟩, ?_, inv.awaiting, ?_⟩
  · rintro payload ⟨⟩
    exact none payload rfl
  · rintro payload ⟨⟩
    exact .waiting present rfl unadopted unsettled
  · intro payload consumed
    have minted := (inv.consumed payload consumed).1
    rw [running] at minted
    cases minted

theorem mint_inv_adopted (consumed : run.handler = .consumed payload) :
    MintInv { run.disarm with handler := .replying, adopted := run.adopted ++ [payload] } := by
  obtain ⟨outcome, armed⟩ := inv.consumed payload consumed
  obtain ⟨-, unadopted, unsettled⟩ := custody_waiting (inv.minted payload outcome) (armed_receiving armed)
  have idle := (inv.armed armed).1
  refine ⟨nofun, fun waiting => absurd idle waiting, ?_, fun none => absurd outcome (none payload), ?_, nofun, nofun⟩
  · intro running
    change run.worker = .running at running
    rw [running] at outcome
    cases outcome
  · intro other minted
    cases Except.ok.inj (Option.some.inj (outcome.symm.trans minted))
    refine .adopted ?_ ?_ unsettled
    · change (false || run.settler == .waiting) = false
      rw [idle]
      rfl
    · rw [unadopted]
      rfl

theorem mint_inv_dropped : MintInv { run.drop with handler := .gone } := by
  rw [MintRun.drop]
  split
  · rename_i armed
    have present := armed_receiving armed
    refine ⟨nofun, fun _ => rfl, fun running => ⟨rfl, (inv.running running).2⟩, inv.nothing, fun payload outcome => ?_,
      nofun, nofun⟩
    obtain ⟨full, unadopted, unsettled⟩ := custody_waiting (inv.minted payload outcome) present
    exact .waiting rfl full unadopted unsettled
  · rename_i armed
    exact ⟨fun impossible => absurd impossible armed, fun _ => rfl, inv.running, inv.nothing,
      fun payload outcome => custody_same run payload rfl rfl rfl rfl rfl (inv.minted payload outcome), nofun, nofun⟩

theorem mint_inv_step {action : MintAction P} (taken : mintStep run action = some next) : MintInv next := by
  cases action with
  | refuse =>
    rw [mintStep] at taken
    split at taken
    · rename_i running awaiting
      cases taken
      have present : run.handler ≠ .gone := by rw [awaiting]; rintro ⟨⟩
      obtain ⟨unadopted, unsettled, -⟩ := inv.nothing (by rw [running]; rintro _ ⟨⟩)
      exact ⟨fun armed => ⟨(inv.armed armed).1, by rintro ⟨⟩⟩, fun busy => absurd (inv.settling busy) present, nofun,
        fun _ => ⟨unadopted, unsettled, by rintro _ ⟨⟩⟩, nofun, nofun, nofun⟩
    · cases taken
  | report outcome =>
    rw [mintStep] at taken
    split at taken
    · rename_i running
      cases taken
      exact mint_inv_reported inv running
    · cases taken
  | finish =>
    rw [mintStep] at taken
    split at taken
    · rename_i outcome reported
      cases taken
      have same : run.worker.outcome = some outcome := by rw [reported]; rfl
      refine ⟨inv.armed, inv.settling, nofun, fun none => inv.nothing ?_, fun payload minted => ?_, inv.awaiting, ?_⟩
      · rw [same]
        exact none
      · exact custody_same run payload rfl rfl rfl rfl rfl (inv.minted payload (same.trans minted))
      · exact fun payload consumed => ⟨same.symm.trans (inv.consumed payload consumed).1, (inv.consumed payload consumed).2⟩
    · cases taken
  | deliver =>
    rw [mintStep] at taken
    split at taken
    · rename_i payload awaiting returned
      cases taken
      refine mint_inv_handler inv (by rw [awaiting]; rintro ⟨⟩) nofun nofun ?_
      rintro other ⟨⟩
      rw [returned]
      exact ⟨rfl, inv.awaiting awaiting⟩
    · rename_i rv awaiting returned
      cases taken
      exact mint_inv_handler inv (by rw [awaiting]; rintro ⟨⟩) nofun nofun nofun
    · cases taken
  | timeOut =>
    rw [mintStep] at taken
    split at taken
    · rename_i awaiting
      cases taken
      exact mint_inv_handler inv (by rw [awaiting]; rintro ⟨⟩) nofun nofun nofun
    · cases taken
  | register adopted =>
    rw [mintStep] at taken
    split at taken
    · rename_i payload consumed
      split at taken <;> cases taken
      · exact mint_inv_adopted inv consumed
      · exact mint_inv_replying inv (by rw [consumed]; rintro ⟨⟩)
    · cases taken
  | settleOnError =>
    rw [mintStep] at taken
    split at taken
    · rename_i failed
      cases taken
      exact mint_inv_settled_on_error inv failed
    · cases taken
  | dropOwner =>
    rw [mintStep] at taken
    split at taken
    · cases taken
    · cases taken
      exact mint_inv_dropped inv
  | settlerWakes =>
    have waiting : run.settler = .waiting := by
      rw [mintStep] at taken
      split at taken
      · assumption
      · assumption
      · assumption
      · cases taken
    exact (mint_inv_woken inv waiting taken).1

end Invariant

end Custody

theorem mint_inv_run {P : Type} [LateMintSettlement P] {actions : List (MintAction P)} {final : MintRun P}
    (ran : exec mintStep (MintRun.armForSession incarnation) actions = some final) : MintInv final :=
  exec_invariant mintStep MintInv (fun _ _ _ inv taken => mint_inv_step inv taken)
    mint_inv_armed ran

def MintRun.disposals (run : MintRun LateMintedObjects) : List BackendHandle := (run.adopted ++ run.settled).flatMap LateMintedObjects.handles

variable {run : MintRun LateMintedObjects} {payload : LateMintedObjects}

theorem settlement_handles :
    (run.settlementOf payload).flatMap LateMintedObjects.handles = payload.handles := by
  rw [MintRun.settlementOf]
  split
  · rename_i empty
    exact (List.isEmpty_iff.mp empty).symm
  · exact List.append_nil _

theorem custody_disposals (custody : Custody run payload) :
    run.disposals = if run.receiving then [] else payload.handles := by
  rw [MintRun.disposals]
  cases custody with
  | waiting present _ unadopted unsettled => rw [present, unadopted, unsettled]; rfl
  | adopted absent adopted unsettled =>
    rw [absent, adopted, unsettled]
    exact List.append_nil _
  | settled absent unadopted settled =>
    rw [absent, unadopted, settled]
    exact settlement_handles

def MintRun.Quiet {P : Type} (run : MintRun P) : Prop := run.handler = .gone ∧ run.settler ≠ .waiting

structure SettledOnce (run : MintRun LateMintedObjects) (handle : BackendHandle) : Prop where
  atMostOnce : run.disposals.count handle ≤ 1
  exactlyOnce : run.Quiet → run.disposals.count handle = 1
  progress : run.handler = .gone → ¬ run.Quiet → ∃ next, mintStep run .settlerWakes = some next ∧ next.Quiet ∧ next.disposals.count handle = 1

theorem quiet_disposed (inv : MintInv run)
    (outcome : run.worker.outcome = some (.ok payload)) {handle : BackendHandle} (member : handle ∈ payload.handles) (quiet : run.Quiet) :
    run.disposals.count handle = 1 := by
  have absent : run.receiving = false := by
    have disarmed : run.armed = false := by
      rw [← Bool.not_eq_true]
      exact fun armed => (inv.armed armed).2 quiet.1
    rw [MintRun.receiving, disarmed, Bool.false_or, beq_eq_false_iff_ne]
    exact quiet.2
  rw [custody_disposals (inv.minted payload outcome), absent]
  exact List.count_eq_one_of_mem payload.distinct member

theorem minted_handles_settled_once (incarnation : Option UInt64) (actions : List (MintAction LateMintedObjects))
    (final : MintRun LateMintedObjects) (ran : exec mintStep (MintRun.armForSession incarnation) actions = some final)
    (session : BackendHandle) (minted : List BackendHandle) (captured : List (BackendHandle × UInt64))
    (outcome : final.worker.outcome = some (.ok (LateMintedObjects.fromCaptured session minted captured)))
    (handle : BackendHandle) (member : handle ∈ minted) (real : handle.raw ≠ 0) : SettledOnce final handle := by
  have inv := mint_inv_run ran
  have listed : handle ∈ (LateMintedObjects.fromCaptured session minted captured).handles :=
    ((LateMintedObjects.kept_handles).2.2 handle).mpr ⟨member, real⟩
  refine ⟨?_, quiet_disposed inv outcome listed, fun gone busy => ?_⟩
  · rw [custody_disposals (inv.minted _ outcome)]
    split
    · exact Nat.zero_le _
    · exact List.nodup_iff_count_le_one.mp (LateMintedObjects.fromCaptured session minted captured).distinct handle
  · have waiting : final.settler = .waiting := by
      by_contra other
      exact busy ⟨gone, other⟩
    have received : final.receiving = true := by
      rw [MintRun.receiving, waiting]
      exact Bool.or_true _
    have full := (custody_waiting (inv.minted _ outcome) received).1
    have taken : mintStep final .settlerWakes = some ({ final with channel := .taken, settler := .finished }.spawnSettlement
        (LateMintedObjects.fromCaptured session minted captured)) := by
      rw [mintStep, waiting, full]
    obtain ⟨kept, finished, handler, worker⟩ := mint_inv_woken inv waiting taken
    have quiet : MintRun.Quiet _ := ⟨handler.trans gone, by rw [finished]; rintro ⟨⟩⟩
    refine ⟨_, taken, quiet, quiet_disposed kept ?_ listed quiet⟩
    rw [worker]
    exact outcome

def lateMint : List (MintAction LateMintedObjects) :=
  [.timeOut, .settleOnError, .dropOwner,
    .report (.ok (LateMintedObjects.fromCaptured ⟨1⟩ [⟨9⟩, ⟨0⟩, ⟨12⟩, ⟨9⟩] [(⟨9⟩, 5)])), .settlerWakes]

theorem minted_handles_settled_once_late :
    ∃ final : MintRun LateMintedObjects, exec mintStep (MintRun.armForSession (some 3)) lateMint = some final ∧ final.Quiet ∧
      final.disposals.count ⟨9⟩ = 1 := by
  have computed : (exec mintStep (MintRun.armForSession (some 3)) lateMint).map
      (fun final => (final.worker.outcome, final.handler, final.settler)) =
      some (some (.ok (LateMintedObjects.fromCaptured ⟨1⟩ [⟨9⟩, ⟨0⟩, ⟨12⟩, ⟨9⟩] [(⟨9⟩, 5)])), .gone, .finished) := rfl
  obtain ⟨final, ran, reads⟩ := Option.map_eq_some_iff.mp computed
  obtain ⟨outcome, rest⟩ := Prod.mk.inj reads
  obtain ⟨gone, finished⟩ := Prod.mk.inj rest
  have quiet : final.Quiet := ⟨gone, by rw [finished]; rintro ⟨⟩⟩
  have once := minted_handles_settled_once (some 3) lateMint final ran ⟨1⟩ _ _ outcome ⟨9⟩ (by decide) (by decide)
  exact ⟨final, ran, quiet, once.exactlyOnce quiet⟩

end Pkcs11Proxy.Server
