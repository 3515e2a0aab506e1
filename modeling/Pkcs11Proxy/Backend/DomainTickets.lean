import Pkcs11Proxy.Backend.LifecycleDomain
import Pkcs11Proxy.Lib.Exec

namespace Pkcs11Proxy.Backend

open Lib Pkcs11Proxy.Types

variable {epoch : UInt64} {next domain : LifecycleDomain} {inner : LifecycleInner}
  {before after thread : DomainThread} {rv : CkRv} {kind : TicketKind} {ticket : ControlTicket}
  {action : DomainAction} {k : Nat}

theorem next_epoch_some {next : UInt64} (taken : nextEpoch epoch = some next) : next.toNat = epoch.toNat + 1 := by
  rw [nextEpoch] at taken
  split at taken
  · rename_i fits
    cases taken
    rw [UInt64.toNat_add, UInt64.toNat_one, Nat.mod_eq_of_lt fits]
  · cases taken

theorem next_epoch_none (exhausted : nextEpoch epoch = none) : epoch.toNat + 1 = 2 ^ 64 := by
  rw [nextEpoch] at exhausted
  split at exhausted
  · cases exhausted
  · rename_i full
    have bound := epoch.toNat_lt
    change ¬ epoch.toNat + 1 < 2 ^ 64 at full
    omega

def DomainThread.entered : DomainThread → Option ControlTicket
  | .holding .finalize ticket true | .queued (.enterFinalizing ticket true) => some ticket
  | _ => none

def DomainThread.initTicket : DomainThread → Option ControlTicket
  | .holding .init ticket _ | .queued (.settlePublish .init ticket) => some ticket
  | _ => none

def TicketKind.publishesFrom : TicketKind → ModuleState
  | .init => .initializing
  | .finalize => .finalizing

inductive SectionStep (inner : LifecycleInner) (before : DomainThread) : LifecycleInner → DomainThread → Prop where
  | kept (after : DomainThread) (reader : after.isAdmitted = false)
      (ticket : after.ticket = before.ticket ∨ after.ticket = none)
      (entered : ∀ ticket, after.entered = some ticket → before.entered = some ticket)
      (plain : after.initTicket = none ∧ ∀ kind ticket, after ≠ .queued (.settlePublish kind ticket))
      (lost : ∀ ticket, after.ticket = none → before.ticket = some ticket → ticket.epoch = inner.epoch →
        ∃ kind, before = .queued (.settlePublish kind ticket) ∧ inner.state ≠ kind.publishesFrom) :
      SectionStep inner before inner after
  | began (kind : TicketKind) (state : ModuleState) (epoch : UInt64) (idle : inner.state ≠ .finalizing)
      (working : kind = .init ∧ state = .initializing ∨ kind = .finalize ∧ state = .draining)
      (moved : epoch.toNat = inner.epoch.toNat + 1) :
      SectionStep inner before ⟨state, epoch⟩ (.holding kind ⟨inner.state, epoch⟩ false)
  | sealed (ticket : ControlTicket) (held : before.ticket = some ticket) (current : ticket.epoch = inner.epoch)
      (draining : inner.state = .draining) : SectionStep inner before ⟨.finalizing, inner.epoch⟩ (.holding .finalize ticket true)
  | settled (ticket : ControlTicket) (rv : CkRv) (next : LifecycleInner) (held : before.ticket = some ticket)
      (current : ticket.epoch = inner.epoch) (resting : next.state.working = false)
      (moved : next.epoch.toNat = inner.epoch.toNat + 1 ∨ next.epoch = inner.epoch ∧ inner.epoch.toNat + 1 = 2 ^ 64) :
      SectionStep inner before next (.finished rv)

theorem section_refused (held : before.ticket = none) :
    SectionStep inner before inner (.finished rv) := by
  refine .kept _ rfl (.inr rfl) nofun ⟨rfl, fun _ _ => by simp⟩ fun ticket _ some _ => ?_
  rw [held] at some
  cases some

theorem section_begun {state : ModuleState} (held : before.ticket = none) (idle : inner.state ≠ .finalizing)
    (working : kind = .init ∧ state = .initializing ∨ kind = .finalize ∧ state = .draining) :
    SectionStep inner before (begun kind inner (inner.consumeEpoch state)).1 (begun kind inner (inner.consumeEpoch state)).2 := by
  rw [LifecycleInner.consumeEpoch]
  cases next : nextEpoch inner.epoch with
  | none => exact section_refused held
  | some epoch => exact .began kind state epoch idle working (next_epoch_some next)

theorem section_settled {published : ModuleState} (resting : published.working = false) :
    SectionStep inner (.queued (.settlePublish kind ticket))
      (LifecycleInner.settlePublishFrom kind.publishesFrom published inner ticket).1
      (.finished (LifecycleInner.settlePublishFrom kind.publishesFrom published inner ticket).2) := by
  rw [LifecycleInner.settlePublishFrom]
  split
  · rename_i stale
    refine .kept _ rfl (.inr rfl) nofun ⟨rfl, fun _ _ => by simp⟩ fun other _ held current => ?_
    cases held
    exact ⟨kind, rfl, stale.resolve_left fun differs => differs current.symm⟩
  · rename_i fresh
    have current : ticket.epoch = inner.epoch := (not_not.mp (not_or.mp fresh).1).symm
    cases next : nextEpoch inner.epoch with
    | none => exact .settled ticket _ _ rfl current rfl (.inr ⟨rfl, next_epoch_none next⟩)
    | some epoch => exact .settled ticket _ _ rfl current resting (.inl (next_epoch_some next))

theorem section_entered {entered : Bool} :
    SectionStep inner (.queued (.enterFinalizing ticket entered)) (runSection inner (.enterFinalizing ticket entered)).1
      (runSection inner (.enterFinalizing ticket entered)).2 := by
  rw [runSection, LifecycleInner.enterFinalizing]
  split
  · rename_i next opened
    split at opened
    · cases opened
    · rename_i current
      cases opened
      obtain ⟨same, draining⟩ := not_or.mp current
      exact .sealed ticket rfl (not_not.mp same).symm (not_not.mp draining)
  · refine .kept _ rfl (.inl rfl) (fun other held => ?_) ⟨rfl, fun _ _ => by simp⟩ nofun
    cases entered with
    | true => exact held
    | false => cases held

theorem section_begin_finalize (held : before.ticket = none) :
    SectionStep inner before (runSection inner .beginFinalize).1 (runSection inner .beginFinalize).2 := by
  rw [runSection, LifecycleInner.beginFinalize]
  split
  · rename_i opened
    exact section_begun held (by simp [opened]) (.inr ⟨rfl, rfl⟩)
  · exact section_refused held
  · exact section_refused held

theorem run_section_step {request : ControlRequest} :
    SectionStep inner (.queued request) (runSection inner request).1 (runSection inner request).2 := by
  cases request with
  | beginInitialize =>
    rw [runSection, LifecycleInner.beginInitialize]
    split
    · exact section_refused rfl
    · exact section_refused rfl
    · rename_i busy
      exact section_begun rfl (fun same => busy same) (.inl ⟨rfl, rfl⟩)
  | beginFinalize => exact section_begin_finalize rfl
  | enterFinalizing ticket entered => exact section_entered
  | settlePublish kind ticket =>
    cases kind with
    | init | finalize => exact section_settled rfl

theorem restored_resting {prior : ModuleState} : (LifecycleInner.restored prior).working = false := by
  cases prior <;> rfl

theorem abandon_step :
    SectionStep inner (.abandoning ticket) (inner.abandonRaw ticket).1 (.finished rv) := by
  rw [LifecycleInner.abandonRaw]
  split
  · rename_i current
    refine .settled ticket rv _ rfl current.symm restored_resting ?_
    cases next : nextEpoch inner.epoch with
    | none => exact .inr ⟨rfl, next_epoch_none next⟩
    | some epoch => exact .inl (next_epoch_some next)
  · rename_i stale
    refine .kept _ rfl (.inr rfl) nofun ⟨rfl, fun _ _ => by simp⟩ fun other _ held current => ?_
    cases held
    exact absurd current.symm stale

inductive DomainMove (domain : LifecycleDomain) (action : DomainAction) : LifecycleDomain → Prop where
  | added (thread : DomainThread) (ticket : thread.ticket = none) (reader : thread.isAdmitted = false) :
      DomainMove domain action (domain.addThread thread)
  | passed (k : Nat) (before after : DomainThread) (held : domain.threads[k]? = some before)
      (ticket : after.ticket = before.ticket)
      (entered : ∀ ticket, after.entered = some ticket → before.entered = some ticket)
      (plain : ∀ ticket, after.initTicket = some ticket → before.initTicket = some ticket)
      (opened : after.isAdmitted = true → domain.inner.state = .opened)
      (publishes : ∀ kind ticket, after = .queued (.settlePublish kind ticket) →
        action = .settlePublish k ∧ ∃ entered, before = .holding kind ticket entered) :
      DomainMove domain action (domain.setThread k after)
  | locked (k : Nat) (before after : DomainThread) (next : LifecycleInner) (held : domain.threads[k]? = some before)
      (drained : domain.drained = true) (ran : SectionStep domain.inner before next after) :
      DomainMove domain action { domain with inner := next, threads := domain.threads.set k after }

theorem move_plain (held : domain.threads[k]? = some before) (ticket : before.ticket = none) (plain : after.ticket = none)
    (opened : after.isAdmitted = true → domain.inner.state = .opened) : DomainMove domain action (domain.setThread k after) := by
  refine .passed k before after held (plain.trans ticket.symm) (fun other entered => ?_) (fun other same => ?_) opened
    fun kind other same => ?_
  · exact absurd plain (by unfold DomainThread.entered at entered; split at entered <;> simp_all [DomainThread.ticket, ControlRequest.ticket])
  · exact absurd plain (by unfold DomainThread.initTicket at same; split at same <;> simp_all [DomainThread.ticket, ControlRequest.ticket])
  · rw [same] at plain
    cases plain

theorem advance_move (held : domain.threads[k]? = some thread)
    (taken : advanceThread domain k thread = some next) : DomainMove domain (.advance k) next := by
  cases thread with
  | admitting =>
    rw [advanceThread] at taken
    split at taken
    · cases taken
    · cases taken
      exact move_plain held rfl rfl nofun
  | reading =>
    rw [advanceThread, LifecycleInner.admitOrdinary] at taken
    split at taken
    · rename_i epoch granted
      cases taken
      refine move_plain held rfl rfl fun _ => ?_
      split at granted
      · assumption
      · cases granted
      · cases granted
    · cases taken
      exact move_plain held rfl rfl nofun
  | admitted epoch =>
    cases taken
    exact move_plain held rfl rfl nofun
  | sealing misses =>
    rw [advanceThread] at taken
    split at taken
    · rename_i drained
      cases taken
      exact .locked k _ _ _ held drained (section_begin_finalize rfl)
    · split at taken
      · cases taken
        exact move_plain held rfl rfl nofun
      · cases taken
        exact move_plain held rfl rfl nofun
  | queued request =>
    rw [advanceThread] at taken
    split at taken
    · rename_i drained
      cases taken
      exact .locked k _ _ _ held drained run_section_step
    · cases taken
  | holding kind ticket entered => cases taken
  | abandoning ticket =>
    rw [advanceThread] at taken
    split at taken
    · rename_i drained
      cases taken
      exact .locked k _ _ _ held drained abandon_step
    · cases taken
  | finished rv => cases taken

theorem domain_move (taken : domainStep domain action = some next) :
    DomainMove domain action next := by
  cases action with
  | admitOrdinary | beginInitialize | beginFinalizeWithDeadline =>
    cases taken
    exact .added _ rfl rfl
  | enterFinalizing k =>
    rw [domainStep, useTicket] at taken
    split at taken
    · rename_i kind ticket entered held
      cases kind with
      | init => cases taken
      | finalize =>
        cases taken
        refine .passed k _ _ held rfl (fun other same => ?_) nofun nofun
          nofun
        cases entered with
        | true => exact same
        | false => cases same
    · cases taken
  | settlePublish k =>
    rw [domainStep, useTicket] at taken
    split at taken
    · rename_i kind ticket entered held
      cases taken
      refine .passed k _ _ held rfl nofun (fun other same => ?_) nofun
        fun other third same => ?_
      · cases kind with
        | init => exact same
        | finalize => cases same
      · cases same
        exact ⟨rfl, entered, rfl⟩
    · cases taken
  | abandon k | dropTicket k =>
    rw [domainStep, useTicket] at taken
    split at taken
    · rename_i held
      cases taken
      exact .passed k _ _ held rfl nofun nofun
        nofun nofun
    · cases taken
  | advance k =>
    obtain ⟨thread, held, stepped⟩ := Option.bind_eq_some_iff.mp taken
    exact advance_move held stepped

def DomainThread.ticketEpoch (thread : DomainThread) : Option UInt64 := thread.ticket.map ControlTicket.epoch

-- No ticket is newer than the domain, no two carry one epoch, guards are alive only
-- while the domain is open, and an entered ticket owns it.
structure DomainInv (domain : LifecycleDomain) : Prop where
  older : ∀ thread ∈ domain.threads, ∀ ticket, thread.ticket = some ticket → ticket.epoch.toNat ≤ domain.inner.epoch.toNat
  apart : Apart DomainThread.ticketEpoch domain.threads
  guarded : ∀ thread ∈ domain.threads, thread.isAdmitted = true → domain.inner.state = .opened
  entered : ∀ thread ∈ domain.threads, ∀ ticket, thread.entered = some ticket →
    ticket.epoch = domain.inner.epoch ∧ domain.inner.state = .finalizing

theorem domain_inv_new : DomainInv LifecycleDomain.new where
  older thread member := by cases member
  apart i j a b key held := by cases held
  guarded thread member := by cases member
  entered thread member := by cases member

theorem ticket_of_entered (entered : thread.entered = some ticket) :
    thread.ticket = some ticket := by
  unfold DomainThread.entered at entered
  split at entered
  · exact entered
  · exact entered
  · cases entered

section

variable (inv : DomainInv domain)

include inv

theorem domain_inv_added (ticket : thread.ticket = none)
    (reader : thread.isAdmitted = false) : DomainInv (domain.addThread thread) := by
  refine ⟨forall_added inv.older fun held some => ?_, apart_added inv.apart fun key claims => ?_, forall_added inv.guarded fun admitted => ?_,
    forall_added inv.entered fun held some => ?_⟩
  · rw [ticket] at some
    cases some
  · rw [DomainThread.ticketEpoch, ticket] at claims
    cases claims
  · rw [reader] at admitted
    cases admitted
  · rw [ticket_of_entered some] at ticket
    cases ticket

theorem domain_inv_passed (held : domain.threads[k]? = some before) (ticket : after.ticket = before.ticket)
    (entered : ∀ ticket, after.entered = some ticket → before.entered = some ticket)
    (opened : after.isAdmitted = true → domain.inner.state = .opened) : DomainInv (domain.setThread k after) := by
  have member := List.mem_of_getElem? held
  refine ⟨forall_set inv.older fun token some => ?_, apart_set inv.apart held fun key claims => .inl ?_, forall_set inv.guarded opened,
    forall_set inv.entered fun token some => inv.entered before member token (entered token some)⟩
  · exact inv.older before member token (ticket.symm.trans some)
  · rwa [DomainThread.ticketEpoch, ticket] at claims

theorem ticket_alone (held : domain.threads[k]? = some before) {mine : ControlTicket}
    (holds : before.ticket = some mine) (current : mine.epoch = domain.inner.epoch) {j : Nat} {other : DomainThread} (differs : j ≠ k)
    (at_j : domain.threads[j]? = some other) (some : other.ticket = some ticket) : ticket.epoch ≠ domain.inner.epoch := by
  intro same
  refine differs (inv.apart j k other before domain.inner.epoch at_j held ?_ ?_)
  · rw [DomainThread.ticketEpoch, some, Option.map_some, same]
  · rw [DomainThread.ticketEpoch, holds, Option.map_some, current]

theorem domain_inv_locked {next : LifecycleInner} (held : domain.threads[k]? = some before) (drained : domain.drained = true)
    (ran : SectionStep domain.inner before next after) :
    DomainInv { domain with inner := next, threads := domain.threads.set k after } := by
  have member := List.mem_of_getElem? held
  have noGuard : ∀ thread ∈ domain.threads, thread.isAdmitted = false := by
    intro thread inside
    cases admitted : thread.isAdmitted with
    | false => rfl
    | true =>
      have some : domain.threads.any DomainThread.isAdmitted = true := List.any_eq_true.mpr ⟨thread, inside, admitted⟩
      rw [LifecycleDomain.drained, some] at drained
      cases drained
  have guarded : after.isAdmitted = false → ∀ thread ∈ domain.threads.set k after, thread.isAdmitted = true → next.state = .opened := by
    intro reader
    refine forall_set (fun thread old admitted => ?_) fun admitted => ?_
    · rw [noGuard thread old] at admitted
      cases admitted
    · rw [reader] at admitted
      cases admitted
  cases ran with
  | kept _ reader ticket entered plain lost =>
    refine ⟨forall_set inv.older fun token some => ?_, apart_set inv.apart held fun key claims => .inl ?_, guarded reader,
      forall_set inv.entered fun token some => inv.entered before member token (entered token some)⟩
    · rcases ticket with same | none
      · exact inv.older before member token (same.symm.trans some)
      · rw [none] at some
        cases some
    · rcases ticket with same | none
      · rwa [DomainThread.ticketEpoch, same] at claims
      · rw [DomainThread.ticketEpoch, none] at claims
        cases claims
  | began kind state epoch idle working moved =>
    refine ⟨forall_set (fun other old token some => ?_) fun token some => ?_,
      apart_set inv.apart held fun key claims => .inr fun j other inside same => ?_, guarded rfl,
      forall_set (fun other old token some => absurd (inv.entered other old token some).2 idle) fun token some => ?_⟩
    · have bound := inv.older other old token some
      change token.epoch.toNat ≤ epoch.toNat
      omega
    · cases some
      exact Nat.le_refl _
    · cases claims
      obtain ⟨token, some, sameEpoch⟩ := Option.map_eq_some_iff.mp same
      have bound := inv.older other (List.mem_of_getElem? inside) token some
      rw [sameEpoch] at bound
      change epoch.toNat ≤ domain.inner.epoch.toNat at bound
      omega
    · cases kind <;> cases some
  | sealed token holds current draining =>
    refine ⟨forall_set inv.older fun third some => inv.older before member third (holds.trans some),
      apart_set inv.apart held fun key claims => .inl ?_, guarded rfl, forall_set (fun other old third some => ?_) fun third some => ?_⟩
    · rw [DomainThread.ticketEpoch, holds]
      exact claims
    · have finalizing := (inv.entered other old third some).2
      rw [draining] at finalizing
      cases finalizing
    · cases some
      exact ⟨current, rfl⟩
  | settled token rv _ holds current resting moved =>
    refine ⟨forall_set (fun other old third some => ?_) nofun, apart_set inv.apart held nofun, guarded rfl, fun other inside third some => ?_⟩
    · have bound := inv.older other old third some
      change third.epoch.toNat ≤ next.epoch.toNat
      rcases moved with next | ⟨same, -⟩
      · omega
      · rw [same]
        exact bound
    · rcases mem_set_cases inside with rfl | ⟨j, differs, old⟩
      · cases some
      · have owner := (inv.entered other (List.mem_of_getElem? old) third some).1
        exact absurd owner (ticket_alone inv held holds current differs old (ticket_of_entered some))

end

theorem domain_inv_step (domain : LifecycleDomain) (action : DomainAction) (next : LifecycleDomain) (inv : DomainInv domain)
    (taken : domainStep domain action = some next) : DomainInv next := by
  cases domain_move taken with
  | added thread ticket reader => exact domain_inv_added inv ticket reader
  | passed k before after held ticket entered plain opened publishes =>
    exact domain_inv_passed inv held ticket entered opened
  | locked k before after inner held drained ran => exact domain_inv_locked inv held drained ran

def DomainThread.unentered : DomainThread → Bool
  | .holding .finalize _ false => true
  | _ => false

def publishesEntered (domain : LifecycleDomain) : DomainAction → Bool
  | .settlePublish k => !domain.threads[k]?.any DomainThread.unentered
  | _ => true

structure RestInv (domain : LifecycleDomain) : Prop where
  owned : domain.inner.state.working = true →
    ∃ thread ∈ domain.threads, ∃ ticket, thread.ticket = some ticket ∧ ticket.epoch = domain.inner.epoch
  publishing : ∀ thread ∈ domain.threads, ∀ ticket, thread = .queued (.settlePublish .finalize ticket) →
    ticket.epoch = domain.inner.epoch ∧ domain.inner.state = .finalizing
  initializing : ∀ thread ∈ domain.threads, ∀ ticket, thread.initTicket = some ticket → ticket.epoch = domain.inner.epoch →
    domain.inner.state = .initializing

theorem rest_inv_new : RestInv LifecycleDomain.new where
  owned working := by cases working
  publishing thread member := by cases member
  initializing thread member := by cases member

theorem ticket_of_init (plain : thread.initTicket = some ticket) :
    thread.ticket = some ticket := by
  unfold DomainThread.initTicket at plain
  split at plain
  · exact plain
  · exact plain
  · cases plain

theorem rest_inv_passed (inv : DomainInv domain) (rest : RestInv domain)
    (held : domain.threads[k]? = some before) (ticket : after.ticket = before.ticket)
    (plain : ∀ ticket, after.initTicket = some ticket → before.initTicket = some ticket)
    (publishes : ∀ ticket, after = .queued (.settlePublish .finalize ticket) → before.entered = some ticket) :
    RestInv (domain.setThread k after) := by
  have member := List.mem_of_getElem? held
  refine ⟨fun working => ?_, forall_set rest.publishing fun token same => inv.entered before member token (publishes token same),
    forall_set rest.initializing fun token some current => rest.initializing before member token (plain token some) current⟩
  rcases exists_set held (rest.owned working) with ⟨token, some, current⟩ | kept
  · exact ⟨after, slot_placed held, token, ticket.trans some, current⟩
  · exact kept

theorem rest_inv_locked {next : LifecycleInner} (inv : DomainInv domain) (rest : RestInv domain) (held : domain.threads[k]? = some before)
    (ran : SectionStep domain.inner before next after) :
    RestInv { domain with inner := next, threads := domain.threads.set k after } := by
  have member := List.mem_of_getElem? held
  cases ran with
  | kept _ reader ticket entered plain lost =>
    refine ⟨fun working => ?_, forall_set rest.publishing fun token same => absurd same (plain.2 .finalize token),
      forall_set rest.initializing fun token some _ => ?_⟩
    · rcases exists_set held (rest.owned working) with ⟨token, some, current⟩ | kept
      · rcases ticket with kept | none
        · exact ⟨after, slot_placed held, token, kept.trans some, current⟩
        · obtain ⟨kind, publish, refused⟩ := lost token none some current
          refine absurd ?_ refused
          cases kind with
          | init => exact rest.initializing before member token (by rw [publish]; rfl) current
          | finalize => exact (rest.publishing before member token publish).2
      · exact kept
    · rw [plain.1] at some
      cases some
  | began kind state epoch idle working moved =>
    have newer : ∀ thread ∈ domain.threads, ∀ token, thread.ticket = some token → token.epoch ≠ epoch := by
      intro thread inside token some same
      have bound := inv.older thread inside token some
      rw [same] at bound
      omega
    refine ⟨fun _ => ⟨_, slot_placed held, _, rfl, rfl⟩,
      forall_set (fun other old token same => absurd (rest.publishing other old token same).2 idle) nofun,
      forall_set (fun other old token some current => absurd current (newer other old token (ticket_of_init some))) fun token some current => ?_⟩
    rcases working with ⟨rfl, rfl⟩ | ⟨rfl, rfl⟩
    · rfl
    · cases some
  | sealed token holds current draining =>
    refine ⟨fun _ => ⟨_, slot_placed held, token, rfl, current⟩, forall_set (fun other old third same => ?_) nofun,
      forall_set (fun other old third some same => ?_) nofun⟩
    · have finalizing := (rest.publishing other old third same).2
      rw [draining] at finalizing
      cases finalizing
    · have initializing := rest.initializing other old third some same
      rw [draining] at initializing
      cases initializing
  | settled token rv _ holds current resting moved =>
    refine ⟨fun working => ?_, fun other inside third same => ?_, fun other inside third some same => ?_⟩
    · rw [resting] at working
      cases working
    · rcases mem_set_cases inside with rfl | ⟨j, differs, old⟩
      · cases same
      · have owner := (rest.publishing other (List.mem_of_getElem? old) third same).1
        exact absurd owner (ticket_alone inv held holds current differs old (by rw [same]; rfl))
    · rcases mem_set_cases inside with rfl | ⟨j, differs, old⟩
      · cases some
      · have holdsThird := ticket_of_init some
        change third.epoch = next.epoch at same
        rcases moved with newer | ⟨same', -⟩
        · have bound := inv.older other (List.mem_of_getElem? old) third holdsThird
          rw [same] at bound
          omega
        · exact absurd (same.trans same') (ticket_alone inv held holds current differs old holdsThird)

theorem rest_inv_step (inv : DomainInv domain)
    (rest : RestInv domain) (allowed : publishesEntered domain action = true) (taken : domainStep domain action = some next) :
    RestInv next := by
  cases domain_move taken with
  | added thread ticket reader =>
    refine ⟨fun working => ?_, forall_added rest.publishing fun token same => ?_, forall_added rest.initializing fun token some _ => ?_⟩
    · obtain ⟨other, inside, token, some, current⟩ := rest.owned working
      exact ⟨other, List.mem_append_left _ inside, token, some, current⟩
    · rw [same] at ticket
      cases ticket
    · rw [ticket_of_init some] at ticket
      cases ticket
  | passed k before after held ticket entered plain opened publishes =>
    refine rest_inv_passed inv rest held ticket plain fun token same => ?_
    obtain ⟨rfl, flag, rfl⟩ := publishes .finalize token same
    cases flag with
    | true => rfl
    | false => simp [publishesEntered, held, DomainThread.unentered] at allowed
  | locked k before after inner held drained ran => exact rest_inv_locked inv rest held ran

-- How one step may move the state and the epoch. An epoch is consumed by every
-- begin and every settlement of a current ticket, except that none follows
-- u64::MAX; entering `Finalizing` belongs to its begin.
inductive EpochMoves (before after : LifecycleInner) : Prop where
  | unmoved (same : after = before)
  | consumed (next : after.epoch.toNat = before.epoch.toNat + 1)
  | entered (draining : before.state = .draining) (finalizing : after = ⟨.finalizing, before.epoch⟩)
  | exhausted (last : before.epoch.toNat + 1 = 2 ^ 64) (same : after.epoch = before.epoch) (resting : after.state.working = false)

def DomainThread.settles (thread : DomainThread) (ticket : ControlTicket) : Prop :=
  thread = .abandoning ticket ∨ ∃ kind, thread = .queued (.settlePublish kind ticket)

structure TicketProtocol (domain : LifecycleDomain) : Prop where
  epochs : ∀ action next, domainStep domain action = some next → EpochMoves domain.inner next.inner
  single : ∀ (i j : Nat) a b left right, domain.threads[i]? = some a → domain.threads[j]? = some b →
    a.ticket = some left → b.ticket = some right → left.epoch = domain.inner.epoch → right.epoch = domain.inner.epoch → i = j
  stale : ∀ (k : Nat) thread ticket next, domain.threads[k]? = some thread → thread.settles ticket →
    ticket.epoch ≠ domain.inner.epoch → domainStep domain (.advance k) = some next → next.inner = domain.inner
  admission : ∀ action next (k : Nat) epoch, domainStep domain action = some next → next.threads[k]? = some (.admitted epoch) →
    domain.threads[k]? = some (.admitted epoch) ∨ domain.inner.state = .opened
  exclusive : ∀ ticket epoch, .holding .finalize ticket true ∈ domain.threads → .admitted epoch ∉ domain.threads

theorem section_epochs {next : LifecycleInner} (ran : SectionStep inner before next after) :
    EpochMoves inner next := by
  cases ran with
  | kept => exact .unmoved rfl
  | began kind state epoch idle working moved => exact .consumed moved
  | sealed ticket held current draining => exact .entered draining rfl
  | settled ticket rv _ held current resting moved =>
    rcases moved with next | ⟨same, last⟩
    · exact .consumed next
    · exact .exhausted last same resting

theorem section_reader {next : LifecycleInner} (ran : SectionStep inner before next after) :
    after.isAdmitted = false := by
  cases ran with
  | kept _ reader => exact reader
  | began | sealed | settled => rfl

theorem stale_settlement
    (held : domain.threads[k]? = some thread) (settles : thread.settles ticket) (stale : ticket.epoch ≠ domain.inner.epoch)
    (taken : domainStep domain (.advance k) = some next) : next.inner = domain.inner := by
  rw [domainStep, held, Option.bind_some] at taken
  rcases settles with rfl | ⟨kind, rfl⟩
  · rw [advanceThread] at taken
    split at taken
    · cases taken
      simp only [LifecycleInner.abandonRaw, if_neg (Ne.symm stale)]
    · cases taken
  · rw [advanceThread] at taken
    split at taken
    · cases taken
      cases kind <;> simp [runLocked, runSection, LifecycleInner.settlePublish, LifecycleInner.settlePublishFrom, Ne.symm stale]
    · cases taken

theorem granted_opened (taken : domainStep domain action = some next) (granted : next.threads[k]? = some (.admitted epoch)) :
    domain.threads[k]? = some (.admitted epoch) ∨ domain.inner.state = .opened := by
  cases domain_move taken with
  | added thread ticket reader =>
    rcases slot_added_cases granted with ⟨-, rfl⟩ | old
    · cases reader
    · exact .inl old
  | passed j before after held ticket entered plain opened publishes =>
    rcases slot_set_cases granted with ⟨-, rfl⟩ | ⟨-, old⟩
    · exact .inr (opened rfl)
    · exact .inl old
  | locked j before after inner held drained ran =>
    rcases slot_set_cases granted with ⟨-, rfl⟩ | ⟨-, old⟩
    · cases section_reader ran
    · exact .inl old

theorem ticket_protocol_of_inv (domain : LifecycleDomain) (inv : DomainInv domain) : TicketProtocol domain where
  epochs action next taken := by
    cases domain_move taken with
    | added | passed => exact .unmoved rfl
    | locked k before after inner held drained ran => exact section_epochs ran
  single i j a b left right heldLeft heldRight ticketLeft ticketRight currentLeft currentRight := by
    refine inv.apart i j a b domain.inner.epoch heldLeft heldRight ?_ ?_
    · rw [DomainThread.ticketEpoch, ticketLeft, Option.map_some, currentLeft]
    · rw [DomainThread.ticketEpoch, ticketRight, Option.map_some, currentRight]
  stale k thread ticket next held settles stale taken := stale_settlement held settles stale taken
  admission action next k epoch taken granted := granted_opened taken granted
  exclusive ticket epoch holds admitted := by
    have finalizing := (inv.entered _ holds ticket rfl).2
    rw [inv.guarded _ admitted rfl] at finalizing
    cases finalizing

-- In every interleaving each step obeys the ticket protocol; and if every finalize
-- ticket entered before it was published, a domain without tickets is at rest.
theorem domain_ticket_protocol (actions : List DomainAction) (final : LifecycleDomain)
    (ran : exec domainStep LifecycleDomain.new actions = some final) :
    TicketProtocol final ∧ (along domainStep (fun domain action => publishesEntered domain action = true) LifecycleDomain.new actions →
      (∀ thread ∈ final.threads, thread.ticket = none) → final.inner.state.working = false) := by
  refine ⟨ticket_protocol_of_inv final (exec_invariant domainStep DomainInv domain_inv_step domain_inv_new ran),
    fun callers none => ?_⟩
  have rest := exec_invariant_along domainStep (fun domain action => publishesEntered domain action = true)
    (fun domain => DomainInv domain ∧ RestInv domain)
    (fun domain action next inv allowed taken =>
      ⟨domain_inv_step domain action next inv.1 taken, rest_inv_step inv.1 inv.2 allowed taken⟩) ⟨domain_inv_new, rest_inv_new⟩ callers ran
  cases working : final.inner.state.working with
  | false => rfl
  | true =>
    obtain ⟨thread, inside, ticket, some, -⟩ := rest.2.owned working
    rw [none thread inside] at some
    cases some

def cleanCycle : List DomainAction :=
  [.beginInitialize, .advance 0, .settlePublish 0, .advance 0, .admitOrdinary, .advance 1, .advance 1, .advance 1,
    .beginFinalizeWithDeadline, .advance 2, .enterFinalizing 2, .advance 2, .settlePublish 2, .advance 2]

theorem domain_ticket_protocol_clean : ∃ final, exec domainStep LifecycleDomain.new cleanCycle = some final ∧
    final.inner = ⟨.finalized, 4⟩ ∧ TicketProtocol final ∧ final.inner.state.working = false := by
  have callers : along domainStep (fun domain action => publishesEntered domain action = true) LifecycleDomain.new cleanCycle := by
    decide
  obtain ⟨protocol, rest⟩ := domain_ticket_protocol cleanCycle _ rfl
  exact ⟨_, rfl, rfl, protocol, rest callers (by decide)⟩

def abandonedInit (k : Nat) : List DomainAction := [.beginInitialize, .advance k, .abandon k]

def abandonedInits : Nat → List DomainAction
  | 0 => []
  | n + 1 => abandonedInits n ++ (abandonedInit n ++ [.advance n])

def idleAfter (n : Nat) (epoch : UInt64) : LifecycleDomain := ⟨⟨.loadedUninitialized, epoch⟩, List.replicate n (.finished .ok)⟩

def abandoningAfter (n : Nat) (epoch : UInt64) : LifecycleDomain :=
  ⟨⟨.initializing, epoch⟩, List.replicate n (.finished .ok) ++ [.abandoning ⟨.loadedUninitialized, epoch⟩]⟩

theorem abandoned_init_begun (n : Nat) {next : UInt64} (taken : nextEpoch epoch = some next) :
    exec domainStep (idleAfter n epoch) (abandonedInit n) = some (abandoningAfter n next) := by
  simp [abandonedInit, exec, domainStep, idleAfter, LifecycleDomain.addThread, advanceThread, LifecycleDomain.drained,
    DomainThread.isAdmitted, runLocked, runSection, begun, LifecycleInner.beginInitialize, LifecycleInner.consumeEpoch, taken, useTicket,
    LifecycleDomain.setThread, abandoningAfter]

theorem abandoned_init_settled {n : Nat} :
    domainStep (abandoningAfter n epoch) (.advance n) = some (idleAfter (n + 1) ((nextEpoch epoch).getD epoch)) := by
  simp [domainStep, abandoningAfter, advanceThread, LifecycleDomain.drained, DomainThread.isAdmitted,
    LifecycleInner.abandonRaw, LifecycleInner.restored, ModuleState.working, idleAfter, List.replicate_succ']

theorem next_epoch_of_nat (n : Nat) (fits : n + 1 < 2 ^ 64) : nextEpoch (UInt64.ofNat n) = some (UInt64.ofNat (n + 1)) := by
  have exact_ : (UInt64.ofNat n).toNat = n := UInt64.toNat_ofNat_of_lt' (Nat.lt_of_succ_lt fits)
  rw [nextEpoch, exact_, if_pos (show n + 1 < UInt64.size from fits)]
  simp

theorem abandoned_inits_run {n : Nat} (fits : 2 * n + 1 < 2 ^ 64) :
    exec domainStep LifecycleDomain.new (abandonedInits n) = some (idleAfter n (UInt64.ofNat (2 * n))) := by
  induction n with
  | zero => rfl
  | succ n ih =>
    have begunNext := next_epoch_of_nat (2 * n) (by omega)
    have settledNext := next_epoch_of_nat (2 * n + 1) (by omega)
    rw [abandonedInits, exec_append, ih (by omega), Option.bind_some, exec_append,
      abandoned_init_begun n begunNext, Option.bind_some, exec, abandoned_init_settled, Option.bind_some, exec, settledNext]
    rfl

theorem last_epoch_abandoned : ∃ actions domain next, exec domainStep LifecycleDomain.new actions = some domain ∧
    domainStep domain (.advance (2 ^ 63 - 1)) = some next ∧ domain.inner = ⟨.initializing, 0xFFFFFFFFFFFFFFFF⟩ ∧
    next.inner = ⟨.loadedUninitialized, 0xFFFFFFFFFFFFFFFF⟩ := by
  have begunNext := next_epoch_of_nat (2 * (2 ^ 63 - 1)) (by decide)
  refine ⟨abandonedInits (2 ^ 63 - 1) ++ abandonedInit (2 ^ 63 - 1), abandoningAfter _ 0xFFFFFFFFFFFFFFFF, _, ?_,
    abandoned_init_settled, rfl, rfl⟩
  rw [exec_append, abandoned_inits_run (by decide), Option.bind_some]
  exact abandoned_init_begun _ begunNext

def initialized : List DomainAction := [.beginInitialize, .advance 0, .settlePublish 0, .advance 0]

-- The epoch stays at an abandoned attempt that consumed the last one and at the entry
-- into `Finalizing`; and publishing a ticket that never entered leaves the domain
-- sealed with no thread left to move it.
theorem epoch_kept_and_domain_stranded :
    (∃ actions domain next, exec domainStep LifecycleDomain.new actions = some domain ∧
      domainStep domain (.advance (2 ^ 63 - 1)) = some next ∧ domain.inner = ⟨.initializing, 0xFFFFFFFFFFFFFFFF⟩ ∧
      next.inner = ⟨.loadedUninitialized, 0xFFFFFFFFFFFFFFFF⟩) ∧
    (∃ domain next,
      exec domainStep LifecycleDomain.new (initialized ++ [.beginFinalizeWithDeadline, .advance 1, .enterFinalizing 1]) = some domain ∧
      domainStep domain (.advance 1) = some next ∧ domain.inner = ⟨.draining, 3⟩ ∧ next.inner = ⟨.finalizing, 3⟩) ∧
    ∃ domain,
      exec domainStep LifecycleDomain.new (initialized ++ [.beginFinalizeWithDeadline, .advance 1, .settlePublish 1, .advance 1]) =
        some domain ∧
      domain.threads = [.finished .ok, .finished .generalError] ∧ domain.inner.state = .draining :=
  ⟨last_epoch_abandoned, ⟨_, _, rfl, rfl, rfl, rfl⟩, _, rfl, rfl, rfl⟩

end Pkcs11Proxy.Backend
