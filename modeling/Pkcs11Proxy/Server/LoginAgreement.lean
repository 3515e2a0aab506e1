import Pkcs11Proxy.Server.LoginFlow

namespace Pkcs11Proxy.Server

open Lib Pkcs11Proxy.Types

def AuthHandler.holding : AuthHandler → Bool
  | .loginLocked _ _ | .loginCalling _ _ | .loginAnswered _ _ _ => true
  | .retryCalling _ _ | .retryAnswered _ _ _ => true
  | .logoutLocked _ | .logoutCalling _ | .logoutAnswered _ _ => true
  | _ => false

def AuthHandler.minting : AuthHandler → Bool
  | .loginAnswered _ userType result | .retryAnswered _ userType result =>
    result == .ok && (loginStateForUserType userType).isSome
  | _ => false

def AuthHandler.leaving : AuthHandler → Option ClientContextId
  | .logoutCalling context => some context
  | .logoutAnswered context result => if result = .ok then some context else none
  | _ => none

def AuthHandler.isReconciling : AuthHandler → Bool
  | .reconciling _ _ => true
  | _ => false

def AuthHandler.resting : AuthHandler → Bool
  | .loginQueued _ _ | .logoutQueued _ | .finished _ => true
  | _ => false

def AuthHandler.context : AuthHandler → Option ClientContextId
  | .loginQueued request _ | .loginLocked request _ | .loginCalling request _ | .loginAnswered request _ _ => some request.context
  | .reconciling request _ | .reconciled request _ | .retryCalling request _ | .retryAnswered request _ _ => some request.context
  | .logoutQueued context | .logoutLocked context | .logoutCalling context | .logoutAnswered context _ => some context
  | .finished _ => none

def SlotState.quiescent (state : SlotState) : Prop := ∀ handler ∈ state.handlers, handler.resting = true

def SlotState.holds (state : SlotState) (context : ClientContextId) : Prop := (state.loginState.lookup context).isSome = true

def actor (state : SlotState) : AuthAction → Option ClientContextId
  | .advance i _ => state.handlers[i]?.bind AuthHandler.context
  | _ => none

-- A reconcile logout runs without the lock. It is harmless when the backend is
-- logged out already, or nobody holds the slot and nobody is about to.
def reconcilesAlone (state : SlotState) : AuthAction → Prop
  | .advance i _ => state.handlers[i]?.any AuthHandler.isReconciling = true → state.loggedIn = true →
      state.loginState = ∅ ∧ ∀ handler ∈ state.handlers, handler.minting = false
  | _ => True

instance (state : SlotState) : (action : AuthAction) → Decidable (reconcilesAlone state action)
  | .advance _ _ => inferInstanceAs (Decidable (_ → _ → _ ∧ _))
  | .login _ | .logout _ | .acquire _ | .refuse _ => .isTrue trivial

structure AuthHandler.Sound (state : SlotState) (handler : AuthHandler) : Prop where
  minted : handler.minting = true → state.loggedIn = true
  last : ∀ context, handler.leaving = some context → ∀ other, state.holds other → other = context

structure AuthInv (state : SlotState) : Prop where
  owner : ∀ (i : Nat) handler, state.handlers[i]? = some handler → handler.holding = true → state.lock = some i
  sound : ∀ (i : Nat) handler, state.handlers[i]? = some handler → handler.Sound state
  agree : ∀ context, state.holds context →
    state.loggedIn = true ∨ ∃ i : Nat, state.handlers[i]? = some (.logoutAnswered context .ok)

variable {state : SlotState} {handler : AuthHandler}

theorem sound_idle (idle : handler.minting = false) (stays : handler.leaving = none) :
    handler.Sound state where
  minted minting := by rw [idle] at minting; cases minting
  last context leaving := by rw [stays] at leaving; cases leaving

variable {other : ClientContextId} {request : LoginRequest} {userType : CkUserType}
  {result : CkRv} {action : AuthAction}

variable {context : ClientContextId}

theorem sound_leaving (idle : handler.minting = false)
    (leaves : handler.leaving = some context) (last : ∀ other, state.holds other → other = context) : handler.Sound state where
  minted minting := by rw [idle] at minting; cases minting
  last leaver leaving := by
    rw [leaves, Option.some.injEq] at leaving
    exact leaving ▸ last

theorem sound_not_holding (free : handler.holding = false) : handler.Sound state := by
  cases handler <;> first | exact sound_idle rfl rfl | cases free

theorem auth_inv_initial {loggedIn : Bool} : AuthInv (SlotState.initial loggedIn) where
  owner i handler found := by simp [SlotState.initial] at found
  sound i handler found := by simp [SlotState.initial] at found
  agree context holds := by simp [SlotState.initial, SlotState.holds] at holds

theorem other_login_state_none (alone : ¬ otherLoginStateForSlot state context = true)
    (other : ClientContextId) (holds : state.holds other) : other = context := by
  simp only [otherLoginStateForSlot, Bool.not_eq_true, Bool.not_eq_false', beq_iff_eq, Finset.card_eq_zero] at alone
  by_contra apart
  have kept : other ∈ (state.loginState.erase context).keys := by
    obtain ⟨loginState, found⟩ := Option.isSome_iff_exists.mp holds
    rw [mem_dict_keys]
    exact ⟨loginState, by rw [dict_lookup_erase, if_neg apart, found]⟩
  rw [alone] at kept
  simp at kept

theorem holds_released (holds : (releaseLogin state context).holds other) :
    other ≠ context ∧ state.holds other := by
  rw [SlotState.holds, releaseLogin, dict_lookup_erase] at holds
  split at holds
  · cases holds
  · rename_i same
    exact ⟨same, holds⟩

variable {after : AuthHandler}

theorem locked_holding (reaches : handler.locked = some after) :
    handler.holding = false ∧ after.holding = true ∧ after.minting = false ∧ after.leaving = none := by
  cases handler <;> cases reaches <;> exact ⟨rfl, rfl, rfl, rfl⟩

section Holder

variable {state next : SlotState} {i : Nat} {handler after : AuthHandler} (inv : AuthInv state)
  (found : state.handlers[i]? = some handler) (holding : handler.holding = true)

include inv found holding

theorem agree_holder (context : ClientContextId) (holds : state.holds context) :
    state.loggedIn = true ∨ handler = .logoutAnswered context .ok := by
  rcases inv.agree context holds with logged | ⟨k, pending⟩
  · exact .inl logged
  · have mine := inv.owner i handler found holding
    have theirs := inv.owner k _ pending rfl
    rw [mine, Option.some.injEq] at theirs
    rw [← theirs, found, Option.some.injEq] at pending
    exact .inr pending

theorem auth_inv_holder (handlers : next.handlers = state.handlers.set i after)
    (kept : after.holding = true → next.lock = state.lock) (sound : after.Sound next)
    (agree : ∀ context, next.holds context → next.loggedIn = true ∨ after = .logoutAnswered context .ok) : AuthInv next := by
  have mine := inv.owner i handler found holding
  have inside : i < state.handlers.length := (List.getElem?_eq_some_iff.mp found).1
  have placed : next.handlers[i]? = some after := by rw [handlers, List.getElem?_set_self inside]
  have other : ∀ (k : Nat) entry, next.handlers[k]? = some entry → k ≠ i → entry.holding = false := by
    intro k entry held apart
    rw [handlers, List.getElem?_set_ne (Ne.symm apart)] at held
    cases claims : entry.holding with
    | false => rfl
    | true =>
      have theirs := inv.owner k entry held claims
      rw [mine, Option.some.injEq] at theirs
      exact absurd theirs.symm apart
  refine ⟨?_, ?_, ?_⟩
  · intro k entry held claims
    by_cases same : k = i
    · subst same
      rw [placed, Option.some.injEq] at held
      rw [kept (held ▸ claims), mine]
    · rw [other k entry held same] at claims
      cases claims
  · intro k entry held
    by_cases same : k = i
    · subst same
      rw [placed, Option.some.injEq] at held
      exact held ▸ sound
    · exact sound_not_holding (other k entry held same)
  · intro context holds
    rcases agree context holds with logged | pending
    · exact .inl logged
    · exact .inr ⟨i, pending ▸ placed⟩

end Holder

variable {i : Nat} {next : SlotState}

theorem auth_inv_waiting (inv : AuthInv state)
    (found : state.handlers[i]? = some handler) (waits : handler.holding = false) (free : after.holding = false)
    (handlers : next.handlers = state.handlers.set i after) (lock : next.lock = state.lock) (kept : next.loginState = state.loginState)
    (logged : state.loggedIn = true → next.loggedIn = true ∨
      state.loginState = ∅ ∧ ∀ handler ∈ state.handlers, handler.minting = false) : AuthInv next := by
  have inside : i < state.handlers.length := (List.getElem?_eq_some_iff.mp found).1
  have before : ∀ (k : Nat) entry, next.handlers[k]? = some entry → entry.holding = true → state.handlers[k]? = some entry := by
    intro k entry held claims
    by_cases same : k = i
    · subst same
      rw [handlers, List.getElem?_set_self inside, Option.some.injEq] at held
      rw [← held, free] at claims
      cases claims
    · rwa [handlers, List.getElem?_set_ne (Ne.symm same)] at held
  refine ⟨fun k entry held claims => ?_, fun k entry held => ?_, fun context holds => ?_⟩
  · rw [lock, inv.owner k entry (before k entry held claims) claims]
  · cases claims : entry.holding with
    | false => exact sound_not_holding claims
    | true =>
      have sound := inv.sound k entry (before k entry held claims)
      refine ⟨fun minting => ?_, fun context leaving other holds => ?_⟩
      · refine (logged (sound.minted minting)).resolve_right fun none => ?_
        rw [none.2 entry (List.mem_of_getElem? (before k entry held claims))] at minting
        cases minting
      · exact sound.last context leaving other (by rwa [SlotState.holds, ← kept])
  · rw [SlotState.holds, kept] at holds
    rcases inv.agree context holds with was | ⟨k, pending⟩
    · refine .inl ((logged was).resolve_right fun none => ?_)
      rw [none.1] at holds
      simp at holds
    · refine .inr ⟨k, ?_⟩
      have apart : i ≠ k := by
        intro same
        rw [← same, found, Option.some.injEq] at pending
        rw [pending] at waits
        cases waits
      rw [handlers, List.getElem?_set_ne apart, pending]

section Steps

variable (token : TokenPins) (state next : SlotState) (i : Nat) (inv : AuthInv state)

include inv

section

variable (found : state.handlers[i]? = some handler)

include found

section

variable (holding : handler.holding = true)

include holding

theorem auth_inv_finished {rv : CkRv} (handlers : next.handlers = state.handlers.set i (.finished rv))
    (agree : ∀ context, next.holds context → next.loggedIn = true) : AuthInv next :=
  auth_inv_holder inv found holding handlers nofun
    (sound_idle rfl rfl) fun context holds => .inl (agree context holds)

theorem auth_inv_moved (entering : ∀ context, handler ≠ .logoutAnswered context .ok) (sound : after.Sound (state.setHandler i after)) :
    AuthInv (state.setHandler i after) :=
  auth_inv_holder inv found holding rfl (fun _ => rfl) sound fun context holds =>
    .inl ((agree_holder inv found holding context holds).resolve_right (entering context))

theorem conclude_login_inv (entering : ∀ context, handler ≠ .logoutAnswered context .ok)
    (minting : handler.minting = (result == .ok && (loginStateForUserType userType).isSome)) :
    AuthInv (concludeLogin state i request userType result) := by
  have agree : ∀ context, state.holds context → state.loggedIn = true := fun context holds =>
    (agree_holder inv found holding context holds).resolve_right (entering context)
  unfold concludeLogin
  split
  · rename_i accepted
    cases requested : loginStateForUserType userType with
    | none => exact auth_inv_finished state _ i inv found holding rfl agree
    | some loginState =>
      rw [accepted, requested] at minting
      have logged := (inv.sound i handler found).minted minting
      exact auth_inv_finished state _ i inv found holding rfl fun _ _ => logged
  · split
    · exact auth_inv_finished state _ i inv found holding rfl agree
    · exact auth_inv_finished state _ i inv found holding rfl agree

theorem backend_login_inv {pin : Option Bytes}
    (entering : ∀ context, handler ≠ .logoutAnswered context .ok) (minting : after.minting = true → (backendLogin token state userType pin).2 = .ok)
    (stays : after.leaving = none) : AuthInv ((backendLogin token state userType pin).1.setHandler i after) := by
  have sound : ∀ now : SlotState, now.loggedIn = true → after.Sound now := fun now logged =>
    ⟨fun _ => logged, fun context leaving => by rw [stays] at leaving; cases leaving⟩
  unfold backendLogin at minting ⊢
  by_cases logged : state.loggedIn = true
  · rw [if_pos logged]
    exact auth_inv_moved state i inv found holding entering (sound _ logged)
  · rw [if_neg logged] at minting ⊢
    by_cases right : token.accepts userType pin = true
    · rw [if_pos right]
      exact auth_inv_holder inv found holding rfl (fun _ => rfl) (sound _ rfl) fun _ _ => .inl rfl
    · rw [if_neg right] at minting ⊢
      refine auth_inv_moved state i inv found holding entering (sound_idle ?_ stays)
      cases mints : after.minting with
      | false => rfl
      | true => cases minting mints

end

end

theorem logout_locked_inv (found : state.handlers[i]? = some (.logoutLocked context))
    (taken : advanceHandler token state i false (.logoutLocked context) = some next) : AuthInv next := by
  have agree : ∀ other, state.holds other → state.loggedIn = true := fun other holds =>
    (agree_holder inv found rfl other holds).resolve_right (by simp)
  simp only [advanceHandler] at taken
  by_cases apart : otherLoginStateForSlot state context = true
  · cases own : state.loginState.lookup context with
    | none =>
      simp only [own, apart, Option.isNone_none, and_self, if_true, Option.some.injEq] at taken
      subst taken
      exact auth_inv_finished state _ i inv found rfl rfl agree
    | some mine =>
      simp only [own, apart, Option.isNone_some, Bool.false_eq_true, false_and, if_false, Option.isSome_some, and_self,
        if_true, Option.some.injEq] at taken
      subst taken
      exact auth_inv_finished state _ i inv found rfl rfl fun _ _ => agree context (by simp [SlotState.holds, own])
  · simp only [apart, Bool.false_eq_true, and_false, if_false, Option.some.injEq] at taken
    subst taken
    exact auth_inv_moved state i inv found rfl (by simp)
      (sound_leaving rfl rfl (other_login_state_none apart))

theorem logout_calling_inv (found : state.handlers[i]? = some (.logoutCalling context)) :
    AuthInv ((backendLogout state).1.setHandler i (.logoutAnswered context (backendLogout state).2)) := by
  have last : ∀ other, state.holds other → other = context := (inv.sound i _ found).last context rfl
  unfold backendLogout
  split
  · refine auth_inv_holder inv found rfl rfl (fun _ => rfl)
      (sound_leaving rfl rfl last) fun other holds => .inr ?_
    rw [last other holds]
  · exact auth_inv_moved state i inv found rfl (by simp) (sound_idle rfl rfl)

theorem logout_answered_inv (found : state.handlers[i]? = some (.logoutAnswered context result)) :
    AuthInv (if result = .ok then (releaseLogin state context).finish i .ok else state.finish i result) := by
  by_cases accepted : result = .ok
  · subst accepted
    refine auth_inv_finished state _ i inv found rfl rfl fun other holds => ?_
    obtain ⟨apart, held⟩ := holds_released holds
    exact absurd ((inv.sound i _ found).last context rfl other held) apart
  · rw [if_neg accepted]
    refine auth_inv_finished state _ i inv found rfl rfl fun other holds => ?_
    refine (agree_holder inv found rfl other holds).resolve_right fun pending => ?_
    cases pending
    exact accepted rfl

theorem login_answered_inv (found : state.handlers[i]? = some (.loginAnswered request userType result))
    (taken : advanceHandler token state i false (.loginAnswered request userType result) = some next) : AuthInv next := by
  simp only [advanceHandler] at taken
  split at taken
  · cases taken
    refine auth_inv_holder inv found rfl rfl nofun
      (sound_idle rfl rfl) fun context holds => .inl ?_
    exact (agree_holder inv found rfl context holds).resolve_right (by simp)
  · cases taken
    exact conclude_login_inv state i inv found rfl (by simp) rfl

theorem reconciling_inv (found : state.handlers[i]? = some (.reconciling request userType))
    (alone : state.loggedIn = true → state.loginState = ∅ ∧ ∀ handler ∈ state.handlers, handler.minting = false) :
    AuthInv ((backendLogout state).1.setHandler i (.reconciled request userType)) := by
  unfold backendLogout
  split
  · rename_i logged
    exact auth_inv_waiting inv found rfl rfl rfl rfl rfl fun _ => .inr (alone logged)
  · exact auth_inv_waiting inv found rfl rfl rfl rfl rfl .inl

theorem advance_inv (cooling : Bool) (handler : AuthHandler) (found : state.handlers[i]? = some handler)
    (alone : reconcilesAlone state (.advance i cooling)) (taken : advanceHandler token state i cooling handler = some next) :
    AuthInv next := by
  cases handler with
  | loginQueued request userType => cases taken
  | loginLocked request userType =>
    have agree := fun context holds => (agree_holder inv found rfl context holds).resolve_right (by simp)
    simp only [advanceHandler] at taken
    split at taken
    · cases taken
      exact auth_inv_finished state _ i inv found rfl rfl agree
    · cases taken
      exact auth_inv_moved state i inv found rfl (by simp) (sound_idle rfl rfl)
  | loginCalling request userType =>
    simp only [advanceHandler, Option.some.injEq] at taken
    subst taken
    exact backend_login_inv token state i inv found rfl (by simp) (by simp +contextual [AuthHandler.minting]) rfl
  | loginAnswered request userType result => exact login_answered_inv token state next i inv found taken
  | reconciling request userType =>
    cases taken
    exact reconciling_inv state i inv found (alone (by rw [found]; rfl))
  | reconciled request userType => cases taken
  | retryCalling request userType =>
    simp only [advanceHandler, Option.some.injEq] at taken
    subst taken
    exact backend_login_inv token state i inv found rfl (by simp) (by simp +contextual [AuthHandler.minting]) rfl
  | retryAnswered request userType result =>
    cases taken
    exact conclude_login_inv state i inv found rfl (by simp) rfl
  | logoutQueued context => cases taken
  | logoutLocked context => exact logout_locked_inv token state next i inv found taken
  | logoutCalling context =>
    cases taken
    exact logout_calling_inv state i inv found
  | logoutAnswered context result =>
    have answered := logout_answered_inv state i inv found
    simp only [advanceHandler, ← apply_ite some, Option.some.injEq] at taken
    exact taken ▸ answered
  | finished rv => cases taken

end Steps

theorem queued_inv (inv : AuthInv state) (waits : handler.holding = false) :
    AuthInv { state with handlers := state.handlers ++ [handler] } := by
  have cases_of : ∀ (k : Nat) entry, (state.handlers ++ [handler])[k]? = some entry →
      state.handlers[k]? = some entry ∨ entry = handler := by
    intro k entry held
    rcases Nat.lt_or_ge k state.handlers.length with inside | outside
    · rw [List.getElem?_append_left inside] at held
      exact .inl held
    · rw [List.getElem?_append_right outside] at held
      exact .inr (List.mem_singleton.mp (List.mem_of_getElem? held))
  refine ⟨fun k entry held claims => ?_, fun k entry held => ?_, fun context holds => ?_⟩
  · rcases cases_of k entry held with before | rfl
    · exact inv.owner k entry before claims
    · rw [waits] at claims
      cases claims
  · rcases cases_of k entry held with before | rfl
    · exact ⟨(inv.sound k entry before).minted, (inv.sound k entry before).last⟩
    · exact sound_not_holding waits
  · rcases inv.agree context holds with logged | ⟨k, pending⟩
    · exact .inl logged
    · exact .inr ⟨k, by rw [List.getElem?_append_left (List.getElem?_eq_some_iff.mp pending).1, pending]⟩

theorem acquired_inv (inv : AuthInv state) (free : state.lock = none)
    (found : state.handlers[i]? = some handler) (reaches : handler.locked = some after) :
    AuthInv { state.setHandler i after with lock := some i } := by
  have inside : i < state.handlers.length := (List.getElem?_eq_some_iff.mp found).1
  have idle : ∀ (k : Nat) entry, state.handlers[k]? = some entry → entry.holding = false := by
    intro k entry held
    cases claims : entry.holding with
    | false => rfl
    | true =>
      have owner := inv.owner k entry held claims
      rw [free] at owner
      cases owner
  have placed : ∀ (k : Nat) entry, (state.handlers.set i after)[k]? = some entry → entry.holding = false ∨ k = i ∧ entry = after := by
    intro k entry held
    by_cases same : k = i
    · subst same
      rw [List.getElem?_set_self inside, Option.some.injEq] at held
      exact .inr ⟨rfl, held.symm⟩
    · rw [List.getElem?_set_ne (Ne.symm same)] at held
      exact .inl (idle k entry held)
  refine ⟨fun k entry held claims => ?_, fun k entry held => ?_, fun context holds => ?_⟩
  · rcases placed k entry held with none | ⟨rfl, -⟩
    · rw [none] at claims
      cases claims
    · rfl
  · rcases placed k entry held with none | ⟨-, rfl⟩
    · exact sound_not_holding none
    · obtain ⟨-, -, idle, stays⟩ := locked_holding reaches
      exact sound_idle idle stays
  · rcases inv.agree context holds with logged | ⟨k, pending⟩
    · exact .inl logged
    · cases idle k _ pending

theorem auth_step_inv {token : TokenPins} (inv : AuthInv state)
    (alone : reconcilesAlone state action) (taken : authStep token state action = some next) : AuthInv next := by
  cases action with
  | login request =>
    simp only [authStep] at taken
    split at taken
    · cases taken
      exact queued_inv inv rfl
    · cases taken
      exact queued_inv inv rfl
  | logout context =>
    cases taken
    exact queued_inv inv rfl
  | acquire i =>
    simp only [authStep] at taken
    split at taken
    · rename_i free
      obtain ⟨after, reached, rfl⟩ := Option.map_eq_some_iff.mp taken
      obtain ⟨handler, found, reaches⟩ := Option.bind_eq_some_iff.mp reached
      exact acquired_inv inv (Option.isNone_iff_eq_none.mp free) found reaches
    · cases taken
  | refuse i =>
    obtain ⟨after, reached, rfl⟩ := Option.map_eq_some_iff.mp taken
    obtain ⟨handler, found, reaches⟩ := Option.bind_eq_some_iff.mp reached
    exact auth_inv_waiting inv found (locked_holding reaches).1 rfl rfl rfl
      rfl .inl
  | advance i cooling =>
    obtain ⟨handler, found, advanced⟩ := Option.bind_eq_some_iff.mp taken
    exact advance_inv token state next i inv cooling handler found alone advanced

section Bystander

variable {token : TokenPins} {state next : SlotState} {context : ClientContextId} (held : state.holds context)
  (logged : state.loggedIn = true)

include held

theorem holds_minted {loginState : LoginState} :
    { state with loginState := state.loginState.insert other loginState }.holds context := by
  rw [SlotState.holds, dict_lookup_insert]
  split
  · rfl
  · exact held

theorem holds_others_released (apart : other ≠ context) : (releaseLogin state other).holds context := by
  rw [SlotState.holds, releaseLogin, dict_lookup_erase, if_neg (Ne.symm apart)]
  exact held

include logged

theorem conclude_login_keeps :
    (concludeLogin state i request userType result).holds context ∧ (concludeLogin state i request userType result).loggedIn = true := by
  unfold concludeLogin
  split
  · cases loginStateForUserType userType with
    | none => exact ⟨held, logged⟩
    | some loginState => exact ⟨holds_minted held, logged⟩
  · split
    · exact ⟨held, logged⟩
    · exact ⟨held, logged⟩

theorem advance_keeps (inv : AuthInv state) {cooling : Bool}
    (found : state.handlers[i]? = some handler) (alone : reconcilesAlone state (.advance i cooling))
    (foreign : handler.context ≠ some context) (taken : advanceHandler token state i cooling handler = some next) :
    next.holds context ∧ next.loggedIn = true := by
  have apart : ∀ other, handler.context = some other → other ≠ context := fun other mine same => foreign (same ▸ mine)
  have refused : ∀ userType pin, (backendLogin token state userType pin).1 = state := fun userType pin => by
    rw [backendLogin, if_pos logged]
  cases handler with
  | loginQueued request userType => cases taken
  | loginLocked request userType =>
    simp only [advanceHandler] at taken
    split at taken <;> cases taken <;> exact ⟨held, logged⟩
  | loginCalling request userType =>
    simp only [advanceHandler, refused, Option.some.injEq] at taken
    exact taken ▸ ⟨held, logged⟩
  | loginAnswered request userType result =>
    simp only [advanceHandler] at taken
    split at taken
    · cases taken
      exact ⟨held, logged⟩
    · cases taken
      exact conclude_login_keeps held logged
  | reconciling request userType =>
    rw [SlotState.holds, (alone (by rw [found]; rfl) logged).1] at held
    simp at held
  | reconciled request userType => cases taken
  | retryCalling request userType =>
    simp only [advanceHandler, refused, Option.some.injEq] at taken
    exact taken ▸ ⟨held, logged⟩
  | retryAnswered request userType result =>
    cases taken
    exact conclude_login_keeps held logged
  | logoutQueued other => cases taken
  | logoutLocked other =>
    simp only [advanceHandler] at taken
    split at taken
    · cases taken
      exact ⟨held, logged⟩
    · split at taken <;> cases taken
      · exact ⟨holds_others_released held (apart other rfl), logged⟩
      · exact ⟨held, logged⟩
  | logoutCalling other => exact absurd ((inv.sound i _ found).last other rfl context held).symm (apart other rfl)
  | logoutAnswered other result =>
    simp only [advanceHandler] at taken
    split at taken <;> cases taken
    · exact ⟨holds_others_released held (apart other rfl), logged⟩
    · exact ⟨held, logged⟩
  | finished rv => cases taken

theorem auth_step_keeps (inv : AuthInv state) (alone : reconcilesAlone state action)
    (foreign : actor state action ≠ some context) (taken : authStep token state action = some next) :
    next.holds context ∧ next.loggedIn = true := by
  cases action with
  | login request =>
    simp only [authStep] at taken
    split at taken <;> cases taken <;> exact ⟨held, logged⟩
  | logout other =>
    cases taken
    exact ⟨held, logged⟩
  | acquire i =>
    simp only [authStep] at taken
    split at taken
    · obtain ⟨after, -, rfl⟩ := Option.map_eq_some_iff.mp taken
      exact ⟨held, logged⟩
    · cases taken
  | refuse i =>
    obtain ⟨after, -, rfl⟩ := Option.map_eq_some_iff.mp taken
    exact ⟨held, logged⟩
  | advance i cooling =>
    obtain ⟨handler, found, advanced⟩ := Option.bind_eq_some_iff.mp taken
    simp only [actor, found, Option.bind_some] at foreign
    exact advance_keeps held logged inv found alone foreign advanced

end Bystander

-- Over every run in which each reconcile logout is alone: at rest a holder means a
-- logged-in backend, and no step of another context logs a holder out.
theorem login_agreement (token : TokenPins) (orphaned : Bool) (actions : List AuthAction) (final : SlotState)
    (ran : exec (authStep token) (SlotState.initial orphaned) actions = some final)
    (alone : along (authStep token) reconcilesAlone (SlotState.initial orphaned) actions) :
    (final.quiescent → ∀ context, final.holds context → final.loggedIn = true) ∧
      ∀ action next context, reconcilesAlone final action → authStep token final action = some next →
        actor final action ≠ some context → final.holds context → final.loggedIn = true →
          next.holds context ∧ next.loggedIn = true := by
  have inv : AuthInv final := exec_invariant_along (authStep token) reconcilesAlone AuthInv
    (fun state action next inv alone taken => auth_step_inv inv alone taken) auth_inv_initial alone ran
  refine ⟨fun quiet context holds => ?_, fun action next context alone taken foreign holds logged => ?_⟩
  · refine (inv.agree context holds).resolve_right fun ⟨i, pending⟩ => ?_
    cases quiet _ (List.mem_of_getElem? pending)
  · exact auth_step_keeps holds logged inv alone foreign taken

def onePin : TokenPins := ⟨fun _ pin => pin == some [1]⟩

def loneReconcile : List AuthAction :=
  [.login ⟨1, 1, some [1]⟩, .acquire 0, .advance 0 false, .advance 0 false, .advance 0 false, .advance 0 false,
    .acquire 0, .advance 0 false, .advance 0 false]

theorem login_agreement_reconciled : ∃ final, exec (authStep onePin) (SlotState.initial true) loneReconcile = some final ∧
    along (authStep onePin) reconcilesAlone (SlotState.initial true) loneReconcile ∧ final.quiescent ∧ final.holds 1 ∧
      final.loggedIn = true := by
  have alone : along (authStep onePin) reconcilesAlone (SlotState.initial true) loneReconcile := by decide
  have quiet : ((exec (authStep onePin) (SlotState.initial true) loneReconcile).get rfl).quiescent := by
    unfold SlotState.quiescent
    decide
  have held : ((exec (authStep onePin) (SlotState.initial true) loneReconcile).get rfl).holds 1 := by
    unfold SlotState.holds
    decide
  exact ⟨_, rfl, alone, quiet, held, (login_agreement onePin true loneReconcile _ rfl alone).1 quiet 1 held⟩

def staleReconcile : List AuthAction :=
  [.login ⟨0, 1, some [0]⟩, .login ⟨1, 1, some [1]⟩,
    .acquire 0, .advance 0 false, .advance 0 false, .advance 0 false,
    .acquire 1, .advance 1 false, .advance 1 false, .advance 1 false, .advance 1 false,
    .acquire 1, .advance 1 false, .advance 1 false,
    .advance 0 false, .acquire 0, .advance 0 false, .advance 0 false]

theorem reconcile_logs_out_holder :
    (∀ request, AuthAction.login request ∈ staleReconcile → request.context = 0 →
      ∀ userType, onePin.accepts userType request.pin = false) ∧
    ∃ final, exec (authStep onePin) (SlotState.initial true) staleReconcile = some final ∧ final.quiescent ∧ final.holds 1 ∧
      final.loggedIn = false := by
  refine ⟨fun request sent wrong userType => ?_, _, rfl, ?_, ?_, rfl⟩
  · simp only [staleReconcile, List.mem_cons, AuthAction.login.injEq, reduceCtorEq, List.not_mem_nil, or_false] at sent
    rcases sent with rfl | rfl
    · rfl
    · cases wrong
  · unfold SlotState.quiescent
    decide
  · unfold SlotState.holds
    decide

end Pkcs11Proxy.Server
