import Pkcs11Proxy.Shim.WidthBridge

namespace Pkcs11Proxy.Shim

open Lib Pkcs11Proxy.Types

section

variable (abi : ParamAbi) (memory : Memory) (pTemplate count : Nat)

inductive CallerAttribute : Nat → Prop
  | entry (index : Nat) (listed : index < count) : CallerAttribute (pTemplate + index * attributeStride abi)
  | nested (pointer top index : Nat) (topListed : top < count) (parent : pointer = pTemplate + top * attributeStride abi)
      (template : isAttributeTemplate (attributeType abi memory pointer) = true) (present : attributeValue abi memory pointer ≠ 0)
      (listed : index < attributeCapacity abi memory pointer / attributeStride abi) :
      CallerAttribute (attributeValue abi memory pointer + index * attributeStride abi)

inductive Writable : Span → Prop
  | attrType (pointer : Nat) (caller : CallerAttribute abi memory pTemplate count pointer) :
      Writable ⟨typeField abi pointer, abi.ulongSize⟩
  | length (pointer : Nat) (caller : CallerAttribute abi memory pTemplate count pointer) :
      Writable ⟨lengthField abi pointer, abi.ulongSize⟩
  | value (pointer : Nat) (caller : CallerAttribute abi memory pTemplate count pointer) (present : attributeValue abi memory pointer ≠ 0) :
      Writable ⟨attributeValue abi memory pointer, attributeCapacity abi memory pointer⟩

end

structure CapturedFrom (abi : ParamAbi) (memory : Memory) (pointer : Nat) (entry : CapturedAttribute) : Prop where
  value : entry.value = attributeValue abi memory pointer
  capacity : entry.capacity = attributeCapacity abi memory pointer
  bounded : entry.capacity ≤ maxSerializableBytes
  length : entry.length = lengthField abi pointer
  attrType : entry.attrType = typeField abi pointer

variable {pointer length : Nat} {entry : CapturedAttribute} {call : AttributeCall}
  {attrType : UInt64} {bytes : Bytes} {result : CkAttributeQueryResult}
  {nested valuesDefined : Bool} {typeEffect : Option Nat} {write : AttributeWrite}
  {writes : List AttributeWrite} {rv : CkRv}

section

variable (abi : ParamAbi) (memory : Memory) {clientWidth backendWidth backendStride : Nat}

theorem captured_entry_from {bufferLen : Nat} {nested : Option (List CkAttributeQuery)}
    (bounded : ¬ attributeCapacity abi memory pointer > maxSerializableBytes) :
    CapturedFrom abi memory pointer (capturedEntry abi memory pointer bufferLen nested) :=
  ⟨rfl, rfl, Nat.le_of_not_lt bounded, rfl, rfl⟩

theorem capture_nested_from
    (captured : captureNested abi memory clientWidth backendWidth pointer = .ok entry) : CapturedFrom abi memory pointer entry := by
  rw [captureNested] at captured
  split at captured
  · cases captured
  · rename_i bounded
    split at captured
    · cases captured
    · cases captured
      exact captured_entry_from abi memory bounded

def EntriesFrom (pointer : Nat) (entries : List CapturedAttribute) : Prop :=
  isAttributeTemplate (attributeType abi memory pointer) = true ∧ attributeValue abi memory pointer ≠ 0 ∧
    ∀ entry ∈ entries, ∃ index < attributeCapacity abi memory pointer / attributeStride abi,
      CapturedFrom abi memory (attributeValue abi memory pointer + index * attributeStride abi) entry

theorem capture_from (captured : capture abi memory clientWidth backendWidth backendStride pointer = .ok call) :
    CapturedFrom abi memory pointer call.entry ∧ ∀ entries, call.nested = some entries → EntriesFrom abi memory pointer entries := by
  rw [capture] at captured
  split at captured
  · cases captured
  rename_i bounded
  split at captured
  · rename_i template
    split at captured
    · cases captured
      exact ⟨captured_entry_from abi memory bounded, nofun⟩
    · rename_i present
      rw [captureTemplateValue] at captured
      split at captured
      · cases captured
      · obtain ⟨entries, walked, ended⟩ := except_bind_ok.mp captured
        split at ended
        · cases ended
          refine ⟨captured_entry_from abi memory bounded, fun found same => ?_⟩
          cases same
          refine ⟨template, present, fun entry member => ?_⟩
          obtain ⟨index, listed, taken⟩ := map_checked_mem walked member
          exact ⟨index, List.mem_range.mp listed, capture_nested_from abi memory taken⟩
        · cases ended
  · split at captured
    · cases captured
      exact ⟨captured_entry_from abi memory bounded, nofun⟩
    · cases captured

theorem capture_template_from {pTemplate count : Nat} {calls : List AttributeCall}
    (captured : captureTemplate abi memory clientWidth backendWidth backendStride pTemplate count = .ok calls) (member : call ∈ calls) :
    ∃ index < count, CapturedFrom abi memory (pTemplate + index * attributeStride abi) call.entry ∧
      ∀ entries, call.nested = some entries → EntriesFrom abi memory (pTemplate + index * attributeStride abi) entries := by
  obtain ⟨index, listed, taken⟩ := map_checked_mem captured member
  exact ⟨index, List.mem_range.mp listed, capture_from abi memory taken⟩

end

structure SafeWrite (entry : CapturedAttribute) (valuesDefined : Bool) (write : AttributeWrite) : Prop where
  valuePointer : write.valuePointer = entry.value
  lengthPointer : write.lengthPointer = entry.length
  typePointer : write.typePointer = entry.attrType
  value : ∀ bytes, write.value = some bytes →
    entry.value ≠ 0 ∧ bytes.length ≤ entry.capacity ∧ write.length = some bytes.length ∧ valuesDefined = true
  attrType : ∀ attrType, write.attrType = some attrType → valuesDefined = true

section

variable {abi : ParamAbi} (order : ByteOrder) (clientWidth backendWidth : Nat) {backendStride : Nat}

theorem bridged_without_value {returnedLen : Nat} {outcome : Option Bytes × Nat}
    (bridged : bridgeOutputValue order attrType none returnedLen backendWidth clientWidth = .ok outcome) : outcome.1 = none := by
  rw [bridgeOutputValue] at bridged
  split at bridged
  · cases bridged
    rfl
  · obtain ⟨clientLen, translated, ended⟩ := except_bind_ok.mp bridged
    cases ended
    rfl

theorem bridged_result_value (bridged : bridgedResult order clientWidth backendWidth entry result nested = .ok (some bytes, length)) :
    result.applyReturnedLen = true ∧ ∃ raw, result.value = some raw ∧
      bridgeOutputValue order (resultType entry result nested) (some raw) result.returnedLen.toNat backendWidth clientWidth =
        .ok (some bytes, length) := by
  rw [bridgedResult] at bridged
  split at bridged
  · rename_i applied
    split at bridged
    · rename_i outcome found
      cases bridged
      refine ⟨applied, ?_⟩
      cases given : result.value with
      | none =>
        rw [given] at found
        cases bridged_without_value order clientWidth backendWidth found
      | some raw =>
        rw [given] at found
        exact ⟨raw, rfl, found⟩
    · cases bridged
    · cases bridged
  · cases bridged

theorem prepared_value_safe (prepared : prepareValue order clientWidth backendWidth entry result nested = .ok (some bytes, length)) :
    entry.value ≠ 0 ∧ bytes.length ≤ entry.capacity ∧ length = bytes.length ∧ result.value.isSome = true ∧ result.applyReturnedLen = true := by
  rw [prepareValue] at prepared
  split at prepared
  · cases prepared
  split at prepared
  · cases prepared
  rename_i fits
  obtain ⟨⟨value, translated⟩, bridged, ended⟩ := except_bind_ok.mp prepared
  dsimp only at ended
  split at ended
  · cases ended
  rename_i short
  cases ended
  obtain ⟨applied, raw, given, found⟩ := bridged_result_value order clientWidth backendWidth bridged
  have shortEnough : bytes.length ≤ entry.capacity := by simpa using short
  have fit : valueMisfits entry result raw = false := by simpa [given] using fits
  simp only [valueMisfits, Bool.or_eq_false_iff, decide_eq_false_iff_not, ne_eq, not_not] at fit
  obtain ⟨⟨⟨-, present⟩, sameLength⟩, -⟩ := fit
  rw [← sameLength] at found
  obtain ⟨_, ⟨⟩, stored, -⟩ := bridged_value found
  exact ⟨present, shortEnough, stored, by simp [given], applied⟩

theorem checked_result_defined (checked : checkResult abi entry result nested valuesDefined = .ok typeEffect) :
    (result.value.isSome = true → valuesDefined = true) ∧ (typeEffect ≠ none → valuesDefined = true) := by
  rw [checkResult] at checked
  split at checked
  · cases checked
  rename_i plain
  simp only [Bool.or_eq_true, not_or, Bool.and_eq_true, Bool.not_eq_true', not_and, Bool.not_eq_true] at plain
  obtain ⟨⟨-, undefined⟩, -⟩ := plain
  have defined : result.value.isSome = true ∨ result.applyType = true → valuesDefined = true := by
    intro effect
    by_contra absent
    have none := undefined (by simpa using absent)
    rcases effect with value | attrType
    · simp [value] at none
    · simp [attrType] at none
  refine ⟨fun value => defined (.inl value), fun effect => ?_⟩
  split at checked
  · rename_i applied
    exact defined (.inr (Bool.and_eq_true_iff.mp applied).2)
  · split at checked
    · cases checked
    · cases checked
      exact absurd rfl effect

theorem stored_value_length {stored : Option Nat} (small : length ≤ maxSerializableBytes)
    (applied : result.applyReturnedLen = true) (checked : storedLength abi result length = .ok stored) : stored = some length := by
  rw [storedLength, if_pos applied] at checked
  obtain ⟨native, narrowed, ended⟩ := except_bind_ok.mp checked
  cases ended
  have plain : length ≠ canonicalUnavailable := by
    have bound : maxSerializableBytes < canonicalUnavailable := by decide
    omega
  rw [checkedLength, if_neg plain] at narrowed
  split at narrowed
  · cases narrowed
    rfl
  · cases narrowed

theorem attribute_write_safe {value : Option Bytes} (bounded : entry.capacity ≤ maxSerializableBytes)
    (checked : checkResult abi entry result nested valuesDefined = .ok typeEffect)
    (prepared : ∀ bytes, value = some bytes → prepareValue order clientWidth backendWidth entry result nested = .ok (some bytes, length))
    (written : attributeWrite abi entry result value length typeEffect = .ok write) : SafeWrite entry valuesDefined write := by
  obtain ⟨stored, narrowed, ended⟩ := except_bind_ok.mp written
  cases ended
  obtain ⟨valueDefined, typeDefined⟩ := checked_result_defined checked
  refine ⟨rfl, rfl, rfl, fun bytes given => ?_, fun attrType given => typeDefined (by simp [show typeEffect = some attrType from given])⟩
  obtain ⟨present, short, same, effect, applied⟩ :=
    prepared_value_safe order clientWidth backendWidth (prepared bytes given)
  refine ⟨present, short, ?_, valueDefined effect⟩
  rw [← same]
  exact stored_value_length (by rw [same]; exact Nat.le_trans short bounded) applied narrowed

theorem prepared_nested_safe (bounded : entry.capacity ≤ maxSerializableBytes)
    (prepared : prepareNested abi order clientWidth backendWidth valuesDefined entry result = .ok write) :
    SafeWrite entry valuesDefined write := by
  obtain ⟨typeEffect, checked, rest⟩ := except_bind_ok.mp prepared
  obtain ⟨⟨value, length⟩, valued, written⟩ := except_bind_ok.mp rest
  refine attribute_write_safe order clientWidth backendWidth bounded
    checked (fun bytes given => ?_) written
  rw [← given]
  exact valued

theorem prepared_entries_safe {calls : Option (List CapturedAttribute)} {results : Option (List CkAttributeQueryResult)}
    (bounded : ∀ entries, calls = some entries → ∀ entry ∈ entries, entry.capacity ≤ maxSerializableBytes)
    (prepared : prepareEntries abi order clientWidth backendWidth valuesDefined calls results length = .ok writes) :
    ∀ write ∈ writes, ∃ entries, calls = some entries ∧ ∃ entry ∈ entries, SafeWrite entry valuesDefined write := by
  intro write member
  cases results with
  | none =>
    cases prepared
    cases member
  | some results =>
    cases calls with
    | none => cases prepared
    | some entries =>
      rw [prepareEntries] at prepared
      split at prepared
      · cases prepared
      · obtain ⟨⟨entry, result⟩, paired, done⟩ := map_checked_mem prepared member
        have listed := (List.of_mem_zip paired).1
        exact ⟨entries, rfl, entry, listed,
          prepared_nested_safe order clientWidth backendWidth (bounded entries rfl entry listed) done⟩

theorem prepared_one_safe (bounded : call.entry.capacity ≤ maxSerializableBytes)
    (entriesBounded : ∀ entries, call.nested = some entries → ∀ entry ∈ entries, entry.capacity ≤ maxSerializableBytes)
    (prepared : prepareOne abi order clientWidth backendWidth backendStride valuesDefined call result = .ok writes) :
    ∀ write ∈ writes, SafeWrite call.entry valuesDefined write ∨
      ∃ entries, call.nested = some entries ∧ ∃ entry ∈ entries, SafeWrite entry valuesDefined write := by
  obtain ⟨typeEffect, checked, rest⟩ := except_bind_ok.mp prepared
  intro write member
  split at rest
  · split at rest
    · cases rest
    · obtain ⟨length, measured, afterLength⟩ := except_bind_ok.mp rest
      obtain ⟨entryWrites, entered, afterEntries⟩ := except_bind_ok.mp afterLength
      obtain ⟨last, written, ended⟩ := except_bind_ok.mp afterEntries
      cases ended
      cases List.mem_append.mp member with
      | inl nested =>
        exact .inr (prepared_entries_safe order clientWidth backendWidth
          entriesBounded entered write nested)
      | inr own =>
        obtain rfl := List.mem_singleton.mp own
        exact .inl (attribute_write_safe order clientWidth backendWidth
          bounded checked (fun bytes given => by cases given) written)
  · obtain ⟨⟨value, length⟩, valued, afterValue⟩ := except_bind_ok.mp rest
    obtain ⟨only, written, ended⟩ := except_bind_ok.mp afterValue
    cases ended
    obtain rfl := List.mem_singleton.mp member
    refine .inl (attribute_write_safe order clientWidth backendWidth
      bounded checked (fun bytes given => ?_) written)
    rw [← given]
    exact valued

end

section

variable (abi : ParamAbi) (memory : Memory)

def wordStore (address value : Nat) : Store := ⟨address, wordBytes abi.ulongSize value⟩

theorem word_store_within {address value : Nat} : (wordStore abi address value).span.Within ⟨address, abi.ulongSize⟩ := by
  rw [Store.span, wordStore, word_bytes_length]
  exact fun _ covered => covered

-- The stores made for one entry: a value of at most the captured capacity with its own
-- length, or no value; and nothing but a length when the rv leaves the outputs undefined.
inductive EntryStores (rv : CkRv) (pointer : Nat) : List Store → Prop
  | measured (length : Option Nat) : EntryStores rv pointer (length.toList.map (wordStore abi (lengthField abi pointer)))
  | defined (value : Option Bytes) (attrType length : Option Nat) (outputs : attributeOutputsDefined rv = true)
      (fits : ∀ bytes, value = some bytes → attributeValue abi memory pointer ≠ 0 ∧
        bytes.length ≤ attributeCapacity abi memory pointer ∧ length = some bytes.length) :
      EntryStores rv pointer (value.toList.map (Store.mk (attributeValue abi memory pointer)) ++
        attrType.toList.map (wordStore abi (typeField abi pointer)) ++ length.toList.map (wordStore abi (lengthField abi pointer)))

theorem safe_write_stores (origin : CapturedFrom abi memory pointer entry) (safe : SafeWrite entry (attributeOutputsDefined rv) write) :
    EntryStores abi memory rv pointer (write.stores abi) := by
  rw [AttributeWrite.stores, safe.valuePointer, safe.typePointer, safe.lengthPointer, origin.value, origin.attrType, origin.length]
  cases defined : attributeOutputsDefined rv with
  | true =>
    refine .defined write.value write.attrType write.length defined fun bytes given => ?_
    obtain ⟨present, short, same, -⟩ := safe.value bytes given
    exact ⟨origin.value ▸ present, origin.capacity ▸ short, same⟩
  | false =>
    have noValue : write.value = none := Option.eq_none_iff_forall_ne_some.mpr fun bytes given => by
      simpa [defined] using (safe.value bytes given).2.2.2
    have noType : write.attrType = none := Option.eq_none_iff_forall_ne_some.mpr fun attrType given => by
      simpa [defined] using safe.attrType attrType given
    rw [noValue, noType]
    exact .measured write.length

variable (order : ByteOrder) (clientWidth backendWidth backendStride pTemplate count : Nat) (calls : List AttributeCall)
  (captured : captureTemplate abi memory clientWidth backendWidth backendStride pTemplate count = .ok calls)

include captured

theorem prepared_write_stores {results : List CkAttributeQueryResult} {returned : CkRv}
    (prepared : prepare abi order clientWidth backendWidth backendStride calls results rv = .ok (writes, returned)) (write : AttributeWrite)
    (member : write ∈ writes) :
    ∃ pointer, CallerAttribute abi memory pTemplate count pointer ∧ EntryStores abi memory rv pointer (write.stores abi) := by
  rw [prepare] at prepared
  split at prepared
  · cases prepared
  split at prepared
  · split at prepared
    · cases prepared
      cases member
    · cases prepared
  obtain ⟨groups, walked, ended⟩ := except_bind_ok.mp prepared
  cases ended
  obtain ⟨group, listed, inGroup⟩ := List.mem_flatten.mp member
  obtain ⟨⟨call, result⟩, paired, done⟩ := map_checked_mem walked listed
  obtain ⟨index, inTemplate, origin, entriesFrom⟩ :=
    capture_template_from abi memory captured (List.of_mem_zip paired).1
  have entriesBounded : ∀ entries, call.nested = some entries → ∀ entry ∈ entries, entry.capacity ≤ maxSerializableBytes := by
    intro entries found entry inside
    obtain ⟨-, -, each⟩ := entriesFrom entries found
    obtain ⟨sub, -, subOrigin⟩ := each entry inside
    exact subOrigin.bounded
  rcases prepared_one_safe order clientWidth backendWidth origin.bounded entriesBounded done write
    inGroup with own | ⟨entries, found, entry, inside, safe⟩
  · exact ⟨_, .entry index inTemplate, safe_write_stores abi memory origin own⟩
  · obtain ⟨template, present, each⟩ := entriesFrom entries found
    obtain ⟨sub, subListed, subOrigin⟩ := each entry inside
    exact ⟨_, .nested _ index sub inTemplate rfl template present subListed, safe_write_stores abi memory subOrigin safe⟩

omit captured in
theorem entry_store_writable {stores : List Store} {store : Store} (caller : CallerAttribute abi memory pTemplate count pointer)
    (entry : EntryStores abi memory rv pointer stores) (stored : store ∈ stores) :
    ∃ span, Writable abi memory pTemplate count span ∧ store.span.Within span := by
  have ofLength : ∀ length : Option Nat, store ∈ length.toList.map (wordStore abi (lengthField abi pointer)) →
      ∃ span, Writable abi memory pTemplate count span ∧ store.span.Within span := by
    intro length listed
    obtain ⟨length, -, rfl⟩ := List.mem_map.mp listed
    exact ⟨_, .length pointer caller, word_store_within abi⟩
  cases entry with
  | measured length => exact ofLength length stored
  | defined value attrType length outputs fits =>
    rw [List.mem_append, List.mem_append] at stored
    rcases stored with (ofValue | ofType) | measured
    · obtain ⟨bytes, given, rfl⟩ := List.mem_map.mp ofValue
      obtain ⟨present, short, -⟩ := fits bytes (Option.mem_toList.mp given)
      exact ⟨_, .value pointer caller present, Span.within_prefix short⟩
    · obtain ⟨attrType, -, rfl⟩ := List.mem_map.mp ofType
      exact ⟨_, .attrType pointer caller, word_store_within abi⟩
    · exact ofLength length measured

-- The stores come from the captures and the response alone, so they are the same for
-- whatever the caller's memory holds when they are made.
theorem attribute_writeback_safe (results : List CkAttributeQueryResult) (rv : CkRv) :
    (∀ error, prepare abi order clientWidth backendWidth backendStride calls results rv = .error error →
      (finishGetAttributeValue abi (prepare abi order clientWidth backendWidth backendStride calls results rv)).stores = []) ∧
    ∀ writes returned, prepare abi order clientWidth backendWidth backendStride calls results rv = .ok (writes, returned) →
      (finishGetAttributeValue abi (prepare abi order clientWidth backendWidth backendStride calls results rv)).stores =
        writes.flatMap (AttributeWrite.stores abi) ∧
      (∀ write ∈ writes, ∃ pointer, CallerAttribute abi memory pTemplate count pointer ∧
        EntryStores abi memory rv pointer (write.stores abi)) ∧
      ∀ later address, (∀ span, Writable abi memory pTemplate count span → ¬ span.Covers address) →
        applyStores (finishGetAttributeValue abi (prepare abi order clientWidth backendWidth backendStride calls results rv)).stores later
          address = later address := by
  refine ⟨fun error failed => by rw [failed]; rfl, fun writes returned prepared => ?_⟩
  have made := prepared_write_stores abi memory order clientWidth backendWidth backendStride pTemplate count calls captured prepared
  rw [prepared]
  refine ⟨rfl, made, fun later address untouched => ?_⟩
  refine apply_stores_keep (fun current => current address = later address) _ later rfl fun store stored current kept => ?_
  obtain ⟨write, member, ofWrite⟩ := List.mem_flatMap.mp stored
  obtain ⟨pointer, caller, entry⟩ := made write member
  obtain ⟨span, writable, within⟩ := entry_store_writable abi memory pTemplate count caller entry ofWrite
  rw [store.apply_outside current address fun covered => untouched span writable (within address covered)]
  exact kept

end

def sampleAttributeMemory : Memory :=
  applyStores [⟨4096, [0x40000211, 8192, 24, 3, 12288, 8].flatMap (wordBytes 8)⟩, ⟨8192, [0x161, 16384, 8].flatMap (wordBytes 8)⟩] fun _ => 0

theorem attribute_writeback_safe_wrapped :
    ∃ calls, captureTemplate .lp64NativeLe sampleAttributeMemory 8 8 24 4096 2 = .ok calls ∧ calls.length = 2 ∧
      ∀ results rv writes returned, prepare .lp64NativeLe .little 8 8 24 calls results rv = .ok (writes, returned) →
        ∀ write ∈ writes, ∃ pointer, CallerAttribute .lp64NativeLe sampleAttributeMemory 4096 2 pointer ∧
          EntryStores .lp64NativeLe sampleAttributeMemory rv pointer (write.stores .lp64NativeLe) := by
  have sized : (captureTemplate .lp64NativeLe sampleAttributeMemory 8 8 24 4096 2).toOption.map List.length = some 2 := by decide +kernel
  obtain ⟨calls, found, length⟩ := Option.map_eq_some_iff.mp sized
  have captured : captureTemplate .lp64NativeLe sampleAttributeMemory 8 8 24 4096 2 = .ok calls := by
    cases taken : captureTemplate .lp64NativeLe sampleAttributeMemory 8 8 24 4096 2 with
    | error error =>
      rw [taken] at found
      cases found
    | ok others =>
      rw [taken] at found
      cases found
      rfl
  refine ⟨calls, captured, length, fun results rv writes returned prepared => ?_⟩
  exact ((attribute_writeback_safe .lp64NativeLe sampleAttributeMemory .little 8 8 24 4096 2 calls captured results rv).2 writes returned
    prepared).2.1

end Pkcs11Proxy.Shim
