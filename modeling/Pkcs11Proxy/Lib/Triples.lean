import Mathlib.Data.List.Basic

namespace Pkcs11Proxy.Lib

variable {condition : Prop}

section

variable {ε σ α β : Type}

-- Triples for fallible stateful programs that may die: from `pre` a program ends
-- in `post` or dead, it fails only dead, and nothing revives a dead state.
structure Guarded (dead : σ → Prop) (pre : σ → Prop) (prog : EStateM ε σ α) (post : α → σ → Prop) : Prop where
  reaches : ∀ state value next, prog state = .ok value next → pre state → post value next ∨ dead next
  stays : ∀ state value next, prog state = .ok value next → dead state → dead next
  fails : ∀ state error next, prog state = .error error next → pre state ∨ dead state → dead next

variable {dead pre : σ → Prop} {post : α → σ → Prop} {prog first : EStateM ε σ α} {second : α → EStateM ε σ β} {state final : σ}

theorem bind_ok {result : β} (ran : (first >>= second) state = .ok result final) :
    ∃ value next, first state = .ok value next ∧ second value next = .ok result final := by
  change EStateM.bind first second state = _ at ran
  unfold EStateM.bind at ran
  cases ended : first state with
  | error error next =>
    rw [ended] at ran
    cases ran
  | ok value next =>
    rw [ended] at ran
    exact ⟨value, next, rfl, ran⟩

theorem bind_error {error : ε} (ran : (first >>= second) state = .error error final) :
    first state = .error error final ∨ ∃ value next, first state = .ok value next ∧ second value next = .error error final := by
  change EStateM.bind first second state = _ at ran
  unfold EStateM.bind at ran
  cases ended : first state with
  | error error' next =>
    rw [ended] at ran
    cases ran
    exact .inl rfl
  | ok value next =>
    rw [ended] at ran
    exact .inr ⟨value, next, rfl, ran⟩

theorem guarded_bind (mid : α → σ → Prop) {post : β → σ → Prop} (left : Guarded dead pre first mid)
    (right : ∀ value, Guarded dead (mid value) (second value) post) :
    Guarded dead pre (first >>= second) post where
  reaches state result final ran holds := by
    obtain ⟨value, next, before, after⟩ := bind_ok ran
    rcases left.reaches state value next before holds with reached | died
    · exact (right value).reaches next result final after reached
    · exact .inr ((right value).stays next result final after died)
  stays state result final ran died := by
    obtain ⟨value, next, before, after⟩ := bind_ok ran
    exact (right value).stays next result final after (left.stays state value next before died)
  fails state error final ran given := by
    rcases bind_error ran with failed | ⟨value, next, before, after⟩
    · exact left.fails state error final failed given
    · refine (right value).fails next error final after ?_
      rcases given with holds | died
      · exact left.reaches state value next before holds
      · exact .inr (left.stays state value next before died)

theorem guarded_weaken (pre' : σ → Prop) (post' : α → σ → Prop)
    (stronger : ∀ state, pre state → pre' state) (weaker : ∀ value state, post' value state → post value state)
    (triple : Guarded dead pre' prog post') : Guarded dead pre prog post where
  reaches state value next ran holds := by
    rcases triple.reaches state value next ran (stronger state holds) with reached | died
    · exact .inl (weaker value next reached)
    · exact .inr died
  stays := triple.stays
  fails state error next ran given := by
    rcases given with holds | died
    · exact triple.fails state error next ran (.inl (stronger state holds))
    · exact triple.fails state error next ran (.inr died)

theorem guarded_pure {value : α} (holds : ∀ state, pre state → post value state) :
    Guarded (ε := ε) dead pre (pure value) post where
  reaches state _ _ ran given := by cases ran; exact .inl (holds state given)
  stays _ _ _ ran died := by cases ran; exact died
  fails _ _ _ ran := by cases ran

theorem guarded_throw {error : ε} (never : ∀ state, ¬ pre state) :
    Guarded (ε := ε) dead pre (throw error) post where
  reaches _ _ _ ran := by cases ran
  stays _ _ _ ran := by cases ran
  fails state _ _ ran given := by
    cases ran
    exact given.resolve_left (never state)

theorem guarded_get {post : β → σ → Prop} {rest : σ → EStateM ε σ β}
    (triple : ∀ read, Guarded dead (fun state => state = read ∧ pre state) (rest read) post) :
    Guarded dead pre (get >>= rest) post := by
  refine guarded_bind (fun read state => state = read ∧ pre state) ⟨?_, ?_, ?_⟩ triple
  · intro state value next ran holds
    cases ran
    exact .inl ⟨rfl, holds⟩
  · intro state value next ran died
    cases ran
    exact died
  · intro state error next ran
    cases ran

theorem guarded_modify (pre post : σ → Prop) {f : σ → σ} (step : ∀ state, pre state → post (f state))
    (keeps : ∀ state, dead state → dead (f state)) : Guarded (ε := ε) dead pre (modify f) fun _ => post where
  reaches state _ _ ran holds := by cases ran; exact .inl (step state holds)
  stays state _ _ ran died := by cases ran; exact keeps state died
  fails _ _ _ ran := by cases ran

theorem guarded_ite [Decidable condition]
    {yes no : EStateM ε σ α} (holds : condition → Guarded dead pre yes post) (fails : ¬ condition → Guarded dead pre no post) :
    Guarded dead pre (if condition then yes else no) post := by
  split
  · rename_i met
    exact holds met
  · rename_i unmet
    exact fails unmet

theorem guarded_frame (fact : Prop) (triple : Guarded dead pre prog post) :
    Guarded dead (fun state => fact ∧ pre state) prog fun value state => fact ∧ post value state where
  reaches state value next ran given := by
    rcases triple.reaches state value next ran given.2 with reached | died
    · exact .inl ⟨given.1, reached⟩
    · exact .inr died
  stays := triple.stays
  fails state error next ran given := by
    rcases given with holds | died
    · exact triple.fails state error next ran (.inl holds.2)
    · exact triple.fails state error next ran (.inr died)

theorem guarded_exists {ι : Type} [Inhabited ι] {pre : ι → σ → Prop}
    (each : ∀ index, Guarded dead (pre index) prog post) : Guarded dead (fun state => ∃ index, pre index state) prog post where
  reaches state value next ran given := by
    obtain ⟨index, holds⟩ := given
    exact (each index).reaches state value next ran holds
  stays := (each default).stays
  fails state error next ran given := by
    rcases given with ⟨index, holds⟩ | died
    · exact (each index).fails state error next ran (.inl holds)
    · exact (each default).fails state error next ran (.inr died)

theorem guarded_for {step : α → EStateM ε σ PUnit} {inv : List α → σ → Prop} {items : List α}
    (each : ∀ item rest, Guarded dead (inv (item :: rest)) (step item) fun _ => inv rest) :
    Guarded dead (inv items) (items.forM step) fun _ => inv [] := by
  induction items with
  | nil => exact guarded_pure fun _ holds => holds
  | cons item rest ih => exact guarded_bind _ (each item rest) fun _ => ih

end

section

variable {ε σ α β : Type}

-- Triples for programs whose failures leave a state that later programs go on
-- from: an ending and a failure each have their own postcondition.
structure Outcomes (pre : σ → Prop) (prog : EStateM ε σ α) (post : α → σ → Prop) (failed : σ → Prop) : Prop where
  ends : ∀ state value next, prog state = .ok value next → pre state → post value next
  fails : ∀ state error next, prog state = .error error next → pre state → failed next

variable {pre : σ → Prop} {post : α → σ → Prop} {prog first : EStateM ε σ α} {second : α → EStateM ε σ β} {state next : σ} {value : α} {error : ε}

theorem bind_of_ok
    (ran : first state = .ok value next) : (first >>= second) state = second value next := by
  change EStateM.bind first second state = _
  rw [EStateM.bind, ran]

theorem bind_of_error
    (ran : first state = .error error next) : (first >>= second) state = .error error next := by
  change EStateM.bind first second state = _
  rw [EStateM.bind, ran]

theorem runs_of_some (prog : EStateM ε σ α) (state : σ) (ends : (prog.run' state).isSome = true) :
    ∃ value next, prog state = .ok value next := by
  cases ran : prog state with
  | ok value next => exact ⟨value, next, rfl⟩
  | error error next =>
    delta EStateM.run' EStateM.run at ends
    rw [ran] at ends
    cases ends

variable {failed : σ → Prop}

theorem outcomes_bind (mid : α → σ → Prop) {post : β → σ → Prop} (left : Outcomes pre first mid failed)
    (right : ∀ value, Outcomes (mid value) (second value) post failed) :
    Outcomes pre (first >>= second) post failed where
  ends state result final ran holds := by
    obtain ⟨value, next, before, after⟩ := bind_ok ran
    exact (right value).ends next result final after (left.ends state value next before holds)
  fails state error final ran holds := by
    rcases bind_error ran with stopped | ⟨value, next, before, after⟩
    · exact left.fails state error final stopped holds
    · exact (right value).fails next error final after (left.ends state value next before holds)

variable {post' : α → σ → Prop} {failed' : σ → Prop}

theorem outcomes_weaken (pre' : σ → Prop) (post : α → σ → Prop)
    (stronger : ∀ state, pre state → pre' state) (weaker : ∀ value state, post' value state → post value state)
    (lost : ∀ state, failed' state → failed state) (triple : Outcomes pre' prog post' failed') : Outcomes pre prog post failed where
  ends state value next ran holds := weaker value next (triple.ends state value next ran (stronger state holds))
  fails state error next ran holds := lost next (triple.fails state error next ran (stronger state holds))

theorem outcomes_pre (pre' : σ → Prop)
    (stronger : ∀ state, pre state → pre' state) (triple : Outcomes pre' prog post failed) : Outcomes pre prog post failed :=
  outcomes_weaken pre' post stronger (fun _ _ => id) (fun _ => id) triple

theorem outcomes_post (post : α → σ → Prop)
    (weaker : ∀ value state, post' value state → post value state) (triple : Outcomes pre prog post' failed) :
    Outcomes pre prog post failed := outcomes_weaken pre post (fun _ => id) weaker (fun _ => id) triple

theorem outcomes_lost
    (lost : ∀ state, failed' state → failed state) (triple : Outcomes pre prog post failed') : Outcomes pre prog post failed :=
  outcomes_weaken pre post (fun _ => id) (fun _ _ => id) lost triple

theorem outcomes_pure (holds : ∀ state, pre state → post value state) :
    Outcomes (ε := ε) pre (pure value) post failed where
  ends state _ _ ran given := by cases ran; exact holds state given
  fails _ _ _ ran := by cases ran

theorem outcomes_get (pre : σ → Prop) (post : β → σ → Prop) (rest : σ → EStateM ε σ β)
    (triple : ∀ read, Outcomes (fun state => state = read ∧ pre state) (rest read) post failed) :
    Outcomes pre (get >>= rest) post failed := by
  apply outcomes_bind (fun read state => state = read ∧ pre state) _ triple
  constructor
  · intro state value next ran holds
    cases ran
    exact ⟨rfl, holds⟩
  · intro state error next ran
    cases ran

theorem outcomes_read {post : β → σ → Prop} {rest : σ → EStateM ε σ β}
    (each : ∀ read, Outcomes pre (rest read) post failed) : Outcomes pre (get >>= rest) post failed := by
  apply outcomes_get
  intro read
  exact outcomes_pre _ (fun _ given => given.2) (each read)

theorem outcomes_modify (pre post : σ → Prop) (f : σ → σ) (step : ∀ state, pre state → post (f state)) :
    Outcomes (ε := ε) pre (modify f) (fun _ => post) failed where
  ends state _ _ ran holds := by cases ran; exact step state holds
  fails _ _ _ ran := by cases ran

theorem outcomes_ite [Decidable condition] {yes no : EStateM ε σ α}
    (holds : condition → Outcomes pre yes post failed) (misses : ¬ condition → Outcomes pre no post failed) :
    Outcomes pre (if condition then yes else no) post failed := by
  split
  · rename_i met
    exact holds met
  · rename_i met
    exact misses met

theorem outcomes_given (fact : Prop)
    (shown : ∀ state, pre state → fact) (triple : fact → Outcomes pre prog post failed) : Outcomes pre prog post failed where
  ends state value next ran holds := (triple (shown state holds)).ends state value next ran holds
  fails state error next ran holds := (triple (shown state holds)).fails state error next ran holds

theorem outcomes_exists {ι : Type} (pre : ι → σ → Prop) (post : α → σ → Prop) (prog : EStateM ε σ α)
    (each : ∀ index, Outcomes (pre index) prog post failed) : Outcomes (fun state => ∃ index, pre index state) prog post failed where
  ends state value next ran given := by
    obtain ⟨index, holds⟩ := given
    exact (each index).ends state value next ran holds
  fails state error next ran given := by
    obtain ⟨index, holds⟩ := given
    exact (each index).fails state error next ran holds

theorem outcomes_for (step : α → EStateM ε σ PUnit) (inv : σ → Prop) (items : List α)
    (each : ∀ item ∈ items, Outcomes inv (step item) (fun _ => inv) failed) :
    Outcomes inv (items.forM step) (fun _ => inv) failed := by
  induction items with
  | nil => exact outcomes_pure fun _ holds => holds
  | cons item rest ih =>
    exact outcomes_bind _ (each item (by simp)) fun _ => ih fun other member => each other (by simp [member])

end

section

variable {ε σ τ α β : Type}

def mapFinal (view : σ → σ) : EStateM.Result ε σ α → EStateM.Result ε σ α
  | .ok value state => .ok value (view state)
  | .error error state => .error error (view state)

def finalState : EStateM.Result ε σ α → σ
  | .ok _ state => state
  | .error _ state => state

-- A program that neither reads nor writes a hidden part of the state: run on a state
-- where the view overwrites it, it ends the same way, in the overwritten final state,
-- and it leaves the part as it was.
structure Oblivious (view : σ → σ) (hidden : σ → τ) (prog : EStateM ε σ α) : Prop where
  blind : ∀ state, prog (view state) = mapFinal view (prog state)
  keeps : ∀ state, hidden (finalState (prog state)) = hidden state

variable {view : σ → σ} {hidden : σ → τ}

theorem oblivious_pure {value : α} : Oblivious (ε := ε) view hidden (pure value) := ⟨fun _ => rfl, fun _ => rfl⟩

theorem oblivious_throw {error : ε} : Oblivious view hidden (throw error : EStateM ε σ α) := ⟨fun _ => rfl, fun _ => rfl⟩

theorem oblivious_bind (first : EStateM ε σ α) (second : α → EStateM ε σ β) (left : Oblivious view hidden first)
    (right : ∀ value, Oblivious view hidden (second value)) : Oblivious view hidden (first >>= second) := by
  constructor
  · intro state
    change EStateM.bind first second (view state) = mapFinal view (EStateM.bind first second state)
    rw [EStateM.bind, EStateM.bind, left.blind state]
    cases first state with
    | ok value next => exact (right value).blind next
    | error error next => rfl
  · intro state
    change hidden (finalState (EStateM.bind first second state)) = hidden state
    have kept := left.keeps state
    rw [EStateM.bind]
    cases ran : first state with
    | ok value next =>
      rw [ran] at kept
      exact ((right value).keeps next).trans kept
    | error error next =>
      rw [ran] at kept
      exact kept

theorem oblivious_map {first : EStateM ε σ α} {f : α → β} (left : Oblivious view hidden first) :
    Oblivious view hidden (first >>= fun value => pure (f value)) :=
  oblivious_bind _ _ left fun _ => oblivious_pure

theorem oblivious_get (rest : σ → EStateM ε σ β) (same : ∀ state, rest (view state) = rest state)
    (each : ∀ state, Oblivious view hidden (rest state)) : Oblivious view hidden (get >>= rest) := by
  constructor
  · intro state
    change rest (view state) (view state) = mapFinal view (rest state state)
    rw [same]
    exact (each state).blind state
  · intro state
    exact (each state).keeps state

theorem oblivious_modify {f : σ → σ} (commutes : ∀ state, f (view state) = view (f state)) (kept : ∀ state, hidden (f state) = hidden state) :
    Oblivious (ε := ε) view hidden (modify f) := by
  constructor
  · intro state
    exact congrArg _ (commutes state)
  · exact kept

theorem oblivious_ite (condition : Prop) [Decidable condition] (yes no : EStateM ε σ α) (left : Oblivious view hidden yes)
    (right : Oblivious view hidden no) : Oblivious view hidden (if condition then yes else no) := by
  split
  · exact left
  · exact right

end

end Pkcs11Proxy.Lib
