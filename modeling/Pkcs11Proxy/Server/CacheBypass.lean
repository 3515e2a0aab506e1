import Pkcs11Proxy.Server.GateBlindness
import Pkcs11Proxy.Server.GateSteps

namespace Pkcs11Proxy.Server

open Lib Pkcs11Proxy.Types

inductive AttributeRead where
  | plain (request : GetAttributeValueRequest)
  | exact (request : GetAttributeValueExactRequest)

def AttributeRead.session : AttributeRead → VirtualHandle
  | .plain request => request.sessionHandle
  | .exact request => request.sessionHandle

def AttributeRead.object : AttributeRead → VirtualHandle
  | .plain request => request.objectHandle
  | .exact request => request.objectHandle

inductive ReadResponse where
  | plain (answer : AttributeAnswer AttributeResult)
  | exact (answer : Except Status (AttributeAnswer CkAttributeQueryResult))

def plainResponse : EStateM.Result CkRv GateState (AttributeAnswer AttributeResult) → AttributeAnswer AttributeResult
  | .ok answer _ => answer
  | .error rv _ => ⟨rv, []⟩

def exactResponse : EStateM.Result CkRv GateState (Except Status (AttributeAnswer CkAttributeQueryResult)) →
    Except Status (AttributeAnswer CkAttributeQueryResult)
  | .ok answer _ => answer
  | .error rv _ => .ok ⟨rv, []⟩

def respond (env : ReadEnv) (provider : AttributeProvider) (state : GateState) : AttributeRead → ReadResponse
  | .plain request => .plain (plainResponse (getAttributeValue env provider request state))
  | .exact request => .exact (exactResponse (getAttributeValueExact env provider request state))

structure InvalidHandleAnswers where
  plain : BackendHandle → List CkAttribute → CkRv × List (Option CkAttributeValue)
  exact : BackendHandle → Option (List CkAttributeQuery) → Except CkRv (CkRv × List CkAttributeQueryResult)

def AttributeProvider.answering (provider : AttributeProvider) (invalid : InvalidHandleAnswers) : AttributeProvider where
  getAttributeValue session object template :=
    if object = ⟨0⟩ then invalid.plain session template else provider.getAttributeValue session object template
  getAttributeValueExact session object queries :=
    if object = ⟨0⟩ then invalid.exact session queries else provider.getAttributeValueExact session object queries

def GateDenied (env : ReadEnv) (state : GateState) (read : AttributeRead) : Prop :=
  (∃ context backend, state.context = some context ∧ context.objectHandles.resolve read.object = some backend ∧ backend ≠ ⟨0⟩) ∧
    ∃ session after, resolveSessionAndObject env.gate read.session read.object state = .ok (session, ⟨0⟩) after

def askedOfCache (env : ReadEnv) (state : GateState) : AttributeRead → List UInt64
  | .plain request =>
    match env.coalesce, admitRead env request state with
    | true, .ok (_, _, template) _ => template.map CkAttribute.attrType
    | _, _ => []
  | .exact request =>
    match env.coalesce && request.exactOutputEffectsVersion == 1, admitExactRead env request state with
    | true, .ok (_, _, queries) _ => (queries.getD []).map CkAttributeQuery.attrType
    | _, _ => []

def servesCached (env : ReadEnv) (state : GateState) (read : AttributeRead) : Bool :=
  (askedOfCache env state read).any fun attrType => (cacheHit state.context read.object attrType).isSome

section Filling

variable {ρ : Type} {slots : List (Option ρ)}

theorem mem_fill {fetched : List ρ} {result : ρ} (member : result ∈ fillResults slots fetched) :
    some result ∈ slots ∨ result ∈ fetched := by
  induction slots generalizing fetched with
  | nil => cases member
  | cons slot rest ih =>
    cases slot with
    | some held =>
      rcases List.mem_cons.mp member with rfl | later
      · exact .inl List.mem_cons_self
      · exact (ih later).imp (List.mem_cons_of_mem _) id
    | none =>
      cases fetched with
      | nil => cases member
      | cons first others =>
        rcases List.mem_cons.mp member with rfl | later
        · exact .inr List.mem_cons_self
        · exact (ih later).imp (List.mem_cons_of_mem _) (List.mem_cons_of_mem _)

theorem fill_keeps (fetched : List ρ) (enough : (slots.filter Option.isNone).length ≤ fetched.length)
    (result : ρ) (held : some result ∈ slots) : result ∈ fillResults slots fetched := by
  induction slots generalizing fetched with
  | nil => cases held
  | cons slot rest ih =>
    cases slot with
    | some first =>
      rcases List.mem_cons.mp held with same | later
      · cases same
        exact List.mem_cons_self
      · exact List.mem_cons_of_mem _ (ih fetched enough later)
    | none =>
      rcases List.mem_cons.mp held with same | later
      · cases same
      · cases fetched with
        | nil => simp at enough
        | cons first others =>
          refine List.mem_cons_of_mem _ (ih others ?_ later)
          simpa using enough

end Filling

variable {cache : Dict (VirtualHandle × UInt64) CachedAttr} {env : ReadEnv} {object : VirtualHandle}

theorem oblivious_extraction {session : VirtualHandle}
    {attrTypes : List UInt64} : CacheBlind cache (admitExtraction env session object attrTypes) := by
  apply oblivious_ite
  · apply oblivious_bind
    · exact oblivious_extract
    · intro permitted
      apply oblivious_ite
      · exact oblivious_throw
      · exact oblivious_pure
  · exact oblivious_pure

theorem oblivious_admission (cache : Dict (VirtualHandle × UInt64) CachedAttr) (env : ReadEnv) (request : GetAttributeValueRequest) :
    CacheBlind cache (admitRead env request) := by
  apply oblivious_bind
  · exact oblivious_resolve
  · intro resolved
    apply oblivious_bind
    · exact oblivious_or_refuse
    · intro template
      exact oblivious_map oblivious_extraction

theorem oblivious_exact_admission (cache : Dict (VirtualHandle × UInt64) CachedAttr) (env : ReadEnv) (request : GetAttributeValueExactRequest) :
    CacheBlind cache (admitExactRead env request) := by
  apply oblivious_bind
  · exact oblivious_resolve
  · intro resolved
    apply oblivious_ite
    · exact oblivious_throw
    · exact oblivious_map oblivious_extraction

theorem cache_values_end (object : VirtualHandle) (values : List (UInt64 × Option Bytes)) (state : GateState) :
    ∃ next, cacheValues object values state = .ok () next := by
  induction values generalizing state with
  | nil => exact ⟨state, rfl⟩
  | cons entry rest ih =>
    obtain ⟨attrType, value⟩ := entry
    cases value with
    | none => exact ih state
    | some value =>
      rw [cacheValues]
      split
      · exact ih _
      · exact ih state

variable {state : GateState}

theorem cached_then {α : Type} {values : List (UInt64 × Option Bytes)} {answer : α} :
    ∃ next, (cacheValues object values >>= fun _ => (pure answer : GateM α)) state = .ok answer next := by
  obtain ⟨next, ran⟩ := cache_values_end object values state
  exact ⟨next, by rw [bind_of_ok ran]; rfl⟩

theorem cache_hit_attributes (state : GateState) (object : VirtualHandle) (attrType : UInt64) :
    cacheHit state.context object attrType =
      if isValueBearingSecret attrType then none else state.attributes.bind fun cache => cache.lookup (object, attrType) := by
  rw [cacheHit, GateState.attributes]
  cases state.context <;> rfl

theorem cache_hit_kept {after : GateState} (kept : after.attributes = state.attributes) (object : VirtualHandle) (attrType : UInt64) :
    cacheHit after.context object attrType = cacheHit state.context object attrType := by
  rw [cache_hit_attributes, cache_hit_attributes, kept]

theorem cold_cache_hit (state : GateState) (attrType : UInt64) :
    cacheHit (state.withCache ∅).context object attrType = none := by
  rw [cacheHit]
  split
  · rfl
  · rw [GateState.withCache]
    cases state.context with
    | none => rfl
    | some context => exact Finmap.lookup_empty _

theorem apply_values_length (template : List CkAttribute) (values : List (Option CkAttributeValue)) :
    (applyValues template values).length = template.length := by
  induction template generalizing values with
  | nil => rfl
  | cons entry rest ih =>
    cases values with
    | nil => rfl
    | cons value others => exact congrArg (· + 1) (ih others)

variable {template : List CkAttribute} {entry : CkAttribute}

theorem apply_none
    (member : entry ∈ applyValues template (template.map fun _ => none)) : entry.value = none := by
  induction template with
  | nil => cases member
  | cons first rest ih =>
    rcases List.mem_cons.mp member with rfl | later
    · rfl
    · exact ih later

section Slots

variable {Q ρ : Type} (hit : Q → Option CachedAttr) (result : Q → CachedAttr → ρ) (asked : List Q)

theorem open_slots : ((asked.map fun query => (hit query).map (result query)).filter Option.isNone).length =
      (asked.filter fun query => (hit query).isNone).length := by
  rw [List.filter_map, List.length_map]
  simp [Function.comp_def]

theorem missed_slots (missed : ∀ query ∈ asked, hit query = none) :
    (asked.map fun query => (hit query).map (result query)) = (asked.map fun _ => none) ∧
      (asked.filter fun query => (hit query).isNone) = asked := by
  constructor
  · apply List.map_congr_left
    intro query member
    rw [missed query member]
    rfl
  · apply List.filter_eq_self.mpr
    intro query member
    rw [missed query member]
    rfl

end Slots

variable {cached : CachedAttr}

section Plain

variable (provider : AttributeProvider) (object : VirtualHandle) (backendSession backendObject : BackendHandle)
  (template : List CkAttribute) (state : GateState)

def freshAnswer : AttributeAnswer AttributeResult :=
  let (rv, values) := provider.getAttributeValue backendSession backendObject template
  ⟨rv, fillResults (template.map fun _ => none) ((applyValues template values).map readResult)⟩

theorem coalesced_miss (missed : ∀ entry ∈ template, cacheHit state.context object entry.attrType = none) :
    plainResponse (coalescedRead provider object backendSession backendObject template state) =
      freshAnswer provider backendSession backendObject template := by
  obtain ⟨slots, fetch⟩ := missed_slots _ (fun entry => protoResultFromCache entry.attrType) template missed
  have asks : (template.isEmpty && !template.isEmpty) = false := Bool.and_not_self _
  rw [coalescedRead, get_bind]
  simp only [slots, fetch, asks, Bool.false_eq_true, if_false]
  obtain ⟨next, ended⟩ := cached_then
  exact congrArg plainResponse ended

theorem coalesced_hit (asked : entry ∈ template)
    (held : cacheHit state.context object entry.attrType = some cached) :
    ∃ result ∈ (plainResponse (coalescedRead provider object backendSession backendObject template state)).results, result.value ≠ none := by
  have slot : some (protoResultFromCache entry.attrType cached) ∈
      template.map fun entry => (cacheHit state.context object entry.attrType).map (protoResultFromCache entry.attrType) :=
    List.mem_map.mpr ⟨entry, asked, by rw [held]; rfl⟩
  have count := open_slots (fun entry : CkAttribute => cacheHit state.context object entry.attrType)
    (fun entry => protoResultFromCache entry.attrType) template
  refine ⟨protoResultFromCache entry.attrType cached, ?_, Option.some_ne_none _⟩
  rw [coalescedRead, get_bind]
  dsimp only
  split
  · rename_i all
    rw [Bool.and_eq_true, List.isEmpty_iff] at all
    rw [all.1, List.length_nil] at count
    exact fill_keeps [] (Nat.le_of_eq count) _ slot
  · obtain ⟨next, ended⟩ := cached_then
    rw [ended]
    refine fill_keeps _ ?_ _ slot
    rw [count, List.length_map, apply_values_length]

end Plain

def refusals : InvalidHandleAnswers where
  plain _ template := (.objectHandleInvalid, template.map fun _ => none)
  exact _ queries := .ok (.objectHandleInvalid, (queries.getD []).map fun query => .mk query.attrType 0 false false none none none)

theorem refused_results_checked (queries : Option (List CkAttributeQuery)) :
    checkedResults queries ((queries.getD []).map fun query => .mk query.attrType 0 false false none none none) = .ok () := by
  rw [checkedResults, validateExactAttributeResults, if_neg, if_neg]
  · rw [List.map_map]
    exact not_not_intro rfl
  · rw [List.length_map, List.length_map]
    exact not_not_intro rfl

section Exact

variable (provider : AttributeProvider) (object : VirtualHandle) (backendSession backendObject : BackendHandle)
  (queries : Option (List CkAttributeQuery))

theorem fetch_exact_state (slots : List (Option CkAttributeQueryResult)) (state other : GateState) :
    exactResponse (fetchExact provider object backendSession backendObject queries slots state) =
      exactResponse (fetchExact provider object backendSession backendObject queries slots other) := by
  rw [fetchExact.eq_def]
  cases provider.getAttributeValueExact backendSession backendObject queries with
  | error rv => rfl
  | ok answered =>
    obtain ⟨rv, results⟩ := answered
    dsimp only
    cases checkedResults queries results with
    | error status => rfl
    | ok _ =>
      obtain ⟨next, ended⟩ := cached_then
      obtain ⟨last, ended'⟩ := cached_then
      exact (congrArg exactResponse ended).trans (congrArg exactResponse ended').symm

theorem coalesced_exact_miss (state : GateState) (missed : ∀ query ∈ queries.getD [], cacheHit state.context object query.attrType = none) :
    coalescedExactRead provider object backendSession backendObject queries state =
      fetchExact provider object backendSession backendObject queries ((queries.getD []).map fun _ => none) state := by
  obtain ⟨slots, fetch⟩ := missed_slots _ exactResultFromCache (queries.getD []) missed
  have all : (queries.map fun _ => queries.getD []) = queries := by cases queries <;> rfl
  rw [coalescedExactRead, get_bind]
  simp [slots, fetch, all]

theorem exact_from_cache_applies {query : CkAttributeQuery} :
    (exactResultFromCache query cached).applyReturnedLen = true := by
  rw [exactResultFromCache]
  split
  · rfl
  · split <;> rfl

theorem fetch_refused (slots : List (Option CkAttributeQueryResult)) (state : GateState) :
    exactResponse (fetchExact (provider.answering refusals) object backendSession ⟨0⟩ queries slots state) =
      .ok ⟨mergeExactRv (mergedCacheRv slots) .objectHandleInvalid,
        fillResults slots ((queries.getD []).map fun query => .mk query.attrType 0 false false none none none)⟩ := by
  have answered : (provider.answering refusals).getAttributeValueExact backendSession ⟨0⟩ queries =
      .ok (.objectHandleInvalid, (queries.getD []).map fun query => .mk query.attrType 0 false false none none none) := by
    simp [AttributeProvider.answering, refusals]
  rw [fetchExact.eq_def, answered]
  dsimp only
  rw [refused_results_checked]
  obtain ⟨next, ended⟩ := cached_then
  exact congrArg exactResponse ended

theorem coalesced_exact_hit (state : GateState) (query : CkAttributeQuery) (asked : query ∈ queries.getD [])
    (cached : CachedAttr) (held : cacheHit state.context object query.attrType = some cached) :
    ∃ answer, exactResponse (coalescedExactRead (provider.answering refusals) object backendSession ⟨0⟩ queries state) = .ok answer ∧
      ∃ result ∈ answer.results, result.applyReturnedLen = true := by
  have slot : some (exactResultFromCache query cached) ∈
      (queries.getD []).map fun query => (cacheHit state.context object query.attrType).map (exactResultFromCache query) :=
    List.mem_map.mpr ⟨query, asked, by rw [held]; rfl⟩
  have count := open_slots (fun query : CkAttributeQuery => cacheHit state.context object query.attrType) exactResultFromCache
    (queries.getD [])
  have fetching : ((queries.map fun _ => (queries.getD []).filter fun query => (cacheHit state.context object query.attrType).isNone).getD []) =
      (queries.getD []).filter fun query => (cacheHit state.context object query.attrType).isNone := by
    cases queries <;> rfl
  rw [coalescedExactRead, get_bind]
  split
  · rename_i all
    rw [Bool.and_eq_true, List.isEmpty_iff] at all
    rw [all.1, List.length_nil] at count
    exact ⟨_, rfl, _, fill_keeps [] (Nat.le_of_eq count) _ slot, exact_from_cache_applies⟩
  · rw [fetch_refused]
    refine ⟨_, rfl, _, fill_keeps _ ?_ _ slot, exact_from_cache_applies⟩
    rw [count, List.length_map, fetching]

theorem fetch_refused_lengths (state : GateState) (answer : AttributeAnswer CkAttributeQueryResult)
    (answered : exactResponse (fetchExact (provider.answering refusals) object backendSession ⟨0⟩ queries
      ((queries.getD []).map fun _ => none) state) = .ok answer) (result : CkAttributeQueryResult) (member : result ∈ answer.results) :
    result.applyReturnedLen = false := by
  rw [fetch_refused] at answered
  cases answered
  rcases mem_fill member with cached | fetched
  · obtain ⟨_, _, impossible⟩ := List.mem_map.mp cached
    cases impossible
  · obtain ⟨query, _, rfl⟩ := List.mem_map.mp fetched
    rfl

end Exact

-- The denied read tells a warm cache from a cold one where an asked attribute is cached.
theorem bypass_iff {ρ : Type} {warm cold : InvalidHandleAnswers → ρ} {after : GateState}
    (kept : after.attributes = state.attributes) {asked : List UInt64}
    (miss : (∀ attrType ∈ asked, cacheHit after.context object attrType = none) → ∀ invalid, warm invalid = cold invalid)
    (hit : ∀ attrType ∈ asked, ∀ cached, cacheHit after.context object attrType = some cached → warm refusals ≠ cold refusals) :
    (∀ invalid, warm invalid = cold invalid) ↔ (asked.any fun attrType => (cacheHit state.context object attrType).isSome) = false := by
  have hits := cache_hit_kept kept object
  constructor
  · intro same
    rw [Bool.eq_false_iff]
    intro serves
    obtain ⟨attrType, member, found⟩ := List.any_eq_true.mp serves
    obtain ⟨cached, held⟩ := Option.isSome_iff_exists.mp found
    exact hit attrType member cached ((hits attrType).trans held) (same refusals)
  · intro unserved
    refine miss fun attrType member => ?_
    rw [hits]
    by_contra held
    exact List.any_eq_false.mp unserved attrType member (Option.isSome_iff_ne_none.mpr held)

variable {request : GetAttributeValueExactRequest}

section Admission

variable {env : ReadEnv} {state after : GateState} {session object : BackendHandle}

theorem admitted_object {request : GetAttributeValueRequest}
    (denied : GateDenied env state (.plain request)) (admitted : admitRead env request state = .ok (session, object, template) after) :
    object = ⟨0⟩ := by
  obtain ⟨-, backend, next, resolved⟩ := denied
  obtain ⟨granted, mid, first, rest⟩ := bind_ok admitted
  have same : (backend, (⟨0⟩ : BackendHandle)) = granted := (EStateM.Result.ok.inj (resolved.symm.trans first)).1
  obtain ⟨_, _, -, rest⟩ := bind_ok rest
  obtain ⟨_, _, -, rest⟩ := bind_ok rest
  cases rest
  rw [← same]

theorem admitted_exact_object {queries : Option (List CkAttributeQuery)}
    (denied : GateDenied env state (.exact request)) (admitted : admitExactRead env request state = .ok (session, object, queries) after) :
    object = ⟨0⟩ := by
  obtain ⟨-, backend, next, resolved⟩ := denied
  obtain ⟨granted, mid, first, rest⟩ := bind_ok admitted
  have same : (backend, (⟨0⟩ : BackendHandle)) = granted := (EStateM.Result.ok.inj (resolved.symm.trans first)).1
  dsimp only at rest
  split at rest
  · cases rest
  · obtain ⟨_, _, -, rest⟩ := bind_ok rest
    cases rest
    rw [← same]

end Admission

variable {provider : AttributeProvider}

theorem fresh_refused {backendSession : BackendHandle} {result : AttributeResult}
    (member : result ∈ (freshAnswer (provider.answering refusals) backendSession ⟨0⟩ template).results) : result.value = none := by
  rcases mem_fill member with cached | fetched
  · obtain ⟨_, _, impossible⟩ := List.mem_map.mp cached
    cases impossible
  · obtain ⟨entry, listed, rfl⟩ := List.mem_map.mp fetched
    rw [readResult, apply_none listed]
    rfl

theorem plain_bypass_iff {request : GetAttributeValueRequest}
    (denied : GateDenied env state (.plain request)) :
    (∀ invalid, plainResponse (getAttributeValue env (provider.answering invalid) request state) =
        plainResponse (getAttributeValue env (provider.answering invalid) request (state.withCache ∅))) ↔
      servesCached env state (.plain request) = false := by
  have blind := (oblivious_admission ∅ env request).blind state
  have kept := (oblivious_admission ∅ env request).keeps state
  rw [servesCached, askedOfCache]
  cases admitted : admitRead env request state with
  | error rv after =>
    rw [admitted] at blind
    refine ⟨fun _ => by cases env.coalesce <;> rfl, fun _ invalid => ?_⟩
    rw [getAttributeValue, bind_of_error admitted, bind_of_error blind]
    rfl
  | ok granted after =>
    obtain ⟨session, object, template⟩ := granted
    obtain rfl := admitted_object denied admitted
    rw [admitted] at blind kept
    have runs : ∀ invalid, getAttributeValue env (provider.answering invalid) request state =
        readAdmitted env (provider.answering invalid) request.objectHandle session ⟨0⟩ template after :=
      fun invalid => bind_of_ok admitted
    have cold : ∀ invalid, getAttributeValue env (provider.answering invalid) request (state.withCache ∅) =
        readAdmitted env (provider.answering invalid) request.objectHandle session ⟨0⟩ template (after.withCache ∅) :=
      fun invalid => bind_of_ok blind
    simp only [runs, cold, readAdmitted]
    cases env.coalesce with
    | false => exact ⟨fun _ => rfl, fun _ _ => rfl⟩
    | true =>
      simp only [Bool.not_true, Bool.false_eq_true, if_false,
        coalesced_miss _ _ _ _ template (after.withCache ∅) fun entry _ => cold_cache_hit after entry.attrType]
      refine bypass_iff kept (fun missed invalid => ?_) fun attrType asked cached held same => ?_
      · exact coalesced_miss _ _ _ _ _ _ fun entry listed => missed _ (List.mem_map_of_mem listed)
      · obtain ⟨entry, listed, rfl⟩ := List.mem_map.mp asked
        obtain ⟨result, member, valued⟩ := coalesced_hit (provider.answering refusals) request.objectHandle session ⟨0⟩ template after listed held
        rw [same] at member
        exact valued (fresh_refused member)

theorem exact_version_run (env : ReadEnv)
    (version : request.exactOutputEffectsVersion = 1) :
    getAttributeValueExact env provider request = (admitExactRead env request >>= fun granted =>
      readExactAdmitted env provider request.objectHandle granted.1 granted.2.1 granted.2.2) :=
  if_neg (not_not_intro version)

theorem exact_bypass_iff (provider : AttributeProvider)
    (denied : GateDenied env state (.exact request)) :
    (∀ invalid, exactResponse (getAttributeValueExact env (provider.answering invalid) request state) =
        exactResponse (getAttributeValueExact env (provider.answering invalid) request (state.withCache ∅))) ↔
      servesCached env state (.exact request) = false := by
  have blind := (oblivious_exact_admission ∅ env request).blind state
  have kept := (oblivious_exact_admission ∅ env request).keeps state
  rw [servesCached, askedOfCache]
  by_cases version : request.exactOutputEffectsVersion = 1
  swap
  · have unsupported : (request.exactOutputEffectsVersion == 1) = false := beq_eq_false_iff_ne.mpr version
    refine ⟨fun _ => by rw [unsupported, Bool.and_false]; rfl, fun _ invalid => ?_⟩
    simp only [getAttributeValueExact, ne_eq, version, not_false_eq_true, if_true]
    rfl
  simp only [version, beq_self_eq_true, Bool.and_true]
  cases admitted : admitExactRead env request state with
  | error rv after =>
    rw [admitted] at blind
    refine ⟨fun _ => by cases env.coalesce <;> rfl, fun _ invalid => ?_⟩
    rw [exact_version_run env version, bind_of_error admitted, bind_of_error blind]
    rfl
  | ok granted after =>
    obtain ⟨session, object, queries⟩ := granted
    obtain rfl := admitted_exact_object denied admitted
    rw [admitted] at blind kept
    have runs : ∀ invalid, getAttributeValueExact env (provider.answering invalid) request state =
        readExactAdmitted env (provider.answering invalid) request.objectHandle session ⟨0⟩ queries after := by
      intro invalid
      rw [exact_version_run env version]
      exact bind_of_ok admitted
    have cold : ∀ invalid, getAttributeValueExact env (provider.answering invalid) request (state.withCache ∅) =
        readExactAdmitted env (provider.answering invalid) request.objectHandle session ⟨0⟩ queries (after.withCache ∅) := by
      intro invalid
      rw [exact_version_run env version]
      exact bind_of_ok blind
    simp only [runs, cold, readExactAdmitted]
    cases env.coalesce with
    | false => exact ⟨fun _ => rfl, fun _ _ => rfl⟩
    | true =>
      simp only [Bool.not_true, Bool.false_eq_true, if_false,
        coalesced_exact_miss _ _ _ _ queries (after.withCache ∅) fun query _ => cold_cache_hit after query.attrType]
      refine bypass_iff kept (fun missed invalid => ?_) fun attrType asked cached held same => ?_
      · rw [coalesced_exact_miss _ request.objectHandle _ _ _ after fun query listed => missed _ (List.mem_map_of_mem listed)]
        apply fetch_exact_state
      · obtain ⟨query, listed, rfl⟩ := List.mem_map.mp asked
        obtain ⟨answer, answered, result, member, applied⟩ := coalesced_exact_hit provider request.objectHandle session queries after
          query listed cached held
        rw [same] at answered
        rw [fetch_refused_lengths provider _ session queries _ answer answered result member] at applied
        cases applied

-- With the gate's denial in place, the answer is the one of a cold cache for every
-- provider exactly when the cache is not asked for anything it holds.
theorem denied_read_bypass_iff (env : ReadEnv) (provider : AttributeProvider) (state : GateState) (read : AttributeRead)
    (denied : GateDenied env state read) :
    (∀ invalid, respond env (provider.answering invalid) state read = respond env (provider.answering invalid) (state.withCache ∅) read) ↔
      servesCached env state read = false := by
  cases read with
  | plain request =>
    rw [← plain_bypass_iff denied]
    exact forall_congr' fun invalid => ⟨ReadResponse.plain.inj, congrArg ReadResponse.plain⟩
  | exact request =>
    rw [← exact_bypass_iff provider denied]
    exact forall_congr' fun invalid => ⟨ReadResponse.exact.inj, congrArg ReadResponse.exact⟩

def listedObjectEnv : ReadEnv where
  gate :=
    { policy := ⟨[("uid=1000".toList, .specific [⟨.label "T".toList, none, none, .allow, some [⟨[9], none⟩]⟩])], false, true,
      none, true, false, false⟩
      identity := some "uid=1000".toList
      generation := 0
      tokenInfo := fun _ => some ("T".toList, "1".toList)
      fetchObjectMetadata := fun _ _ => some ⟨[7], some 3, true⟩
      backendObjectIsPrivate := fun _ _ => false
      otherLogin := fun _ => false }
  coalesce := true
  auditAccepts := true

def unlistedObject (cache : Dict (VirtualHandle × UInt64) CachedAttr) : GateState :=
  let opened := (LogicalClientInstance.new.registerSession ⟨0x10⟩ ⟨0⟩).1
  ⟨some { opened with objectHandles := (opened.objectHandles.insert ⟨0x20⟩).1, attrCache := cache }, ∅, [], none⟩

def labelRead : AttributeRead := .plain ⟨⟨1⟩, ⟨1⟩, [.mk 3 none]⟩

def silentProvider : AttributeProvider := ⟨fun _ _ _ => (.objectHandleInvalid, []), fun _ _ _ => .error .objectHandleInvalid⟩

def endValue {α : Type} : EStateM.Result CkRv GateState α → Option α
  | .ok value _ => some value
  | .error _ _ => none

theorem ended_value {α : Type} {result : EStateM.Result CkRv GateState α} {value : α} (ended : endValue result = some value) :
    ∃ after, result = .ok value after := by
  cases result with
  | ok found after => exact ⟨after, congrArg (fun v => EStateM.Result.ok v after) (Option.some.inj ended)⟩
  | error rv after => cases ended

theorem unlisted_object_denied
    (resolved : endValue (resolveSessionAndObject listedObjectEnv.gate ⟨1⟩ ⟨1⟩ (unlistedObject cache)) = some (⟨0x10⟩, ⟨0⟩)) :
    GateDenied listedObjectEnv (unlistedObject cache) labelRead := by
  have mapped : ((LogicalClientInstance.new.registerSession ⟨0x10⟩ ⟨0⟩).1.objectHandles.insert ⟨0x20⟩).1.resolve ⟨1⟩ = some ⟨0x20⟩ := by
    decide +kernel
  exact ⟨⟨_, ⟨0x20⟩, rfl, mapped, by decide⟩, ⟨0x10⟩, ended_value resolved⟩

def cachedAttribute (attrType : UInt64) : Dict (VirtualHandle × UInt64) CachedAttr :=
  (∅ : Dict (VirtualHandle × UInt64) CachedAttr).insert (⟨1⟩, attrType) ⟨[65], 0⟩

-- The object's id is cached, its label is not.
theorem denied_read_bypass_warm : GateDenied listedObjectEnv (unlistedObject (cachedAttribute 258)) labelRead ∧
    ∀ invalid, respond listedObjectEnv (silentProvider.answering invalid) (unlistedObject (cachedAttribute 258)) labelRead =
      respond listedObjectEnv (silentProvider.answering invalid) ((unlistedObject (cachedAttribute 258)).withCache ∅) labelRead :=
  have denied := unlisted_object_denied (by decide +kernel)
  ⟨denied, (denied_read_bypass_iff listedObjectEnv silentProvider (unlistedObject (cachedAttribute 258)) labelRead denied).mpr (by decide +kernel)⟩

-- The label of a denied object comes back from the cache, with `CKR_OK` and without a
-- call to the provider.
theorem denied_read_served : GateDenied listedObjectEnv (unlistedObject (cachedAttribute 3)) labelRead ∧
    respond listedObjectEnv silentProvider (unlistedObject (cachedAttribute 3)) labelRead = .plain ⟨.ok, [⟨3, some [65], 1⟩]⟩ ∧
    respond listedObjectEnv silentProvider (unlistedObject (cachedAttribute 3)) labelRead ≠
      respond listedObjectEnv silentProvider ((unlistedObject (cachedAttribute 3)).withCache ∅) labelRead := by
  have served : respond listedObjectEnv silentProvider (unlistedObject (cachedAttribute 3)) labelRead = .plain ⟨.ok, [⟨3, some [65], 1⟩]⟩ :=
    congrArg ReadResponse.plain (by decide +kernel)
  refine ⟨unlisted_object_denied (by decide +kernel), served, ?_⟩
  intro same
  cases same

end Pkcs11Proxy.Server
