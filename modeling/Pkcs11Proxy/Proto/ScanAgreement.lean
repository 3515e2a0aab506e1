import Pkcs11Proxy.Proto.WireDecode

namespace Pkcs11Proxy.Proto

open Lib

section Occurrences

variable (descriptor : MessageDesc)

def Seen.holds (seen : Seen) : Slot → Prop
  | .number number => number ∈ seen.numbers
  | .oneof index => index ∈ seen.oneofs

def Seen.add (seen : Seen) : Option Slot → Seen
  | none => seen
  | some (.number number) => { seen with numbers := seen.numbers ++ [number] }
  | some (.oneof index) => { seen with oneofs := seen.oneofs ++ [index] }

variable {seen : Seen}

theorem seen_add_holds {slot other : Slot} : (seen.add (some slot)).holds other ↔ seen.holds other ∨ other = slot := by
  cases slot <;> cases other <;> simp [Seen.add, Seen.holds]

theorem check_occurrence_iff (field : WireField) (seen next : Seen) :
    checkOccurrence descriptor (descriptor.field field.number) field.number seen = .ok next ↔
      (∀ slot, slotOf descriptor field = some slot → ¬ seen.holds slot) ∧ next = seen.add (slotOf descriptor field) := by
  rw [checkOccurrence.eq_def, slotOf]
  cases descriptor.field field.number with
  | none => simp [Seen.add, eq_comm]
  | some known =>
    by_cases member : known.oneof = noOneof
    · by_cases repeats : known.repeated = true
      · simp [member, repeats, Seen.add, eq_comm]
      · by_cases taken : field.number ∈ seen.numbers
        · simp [member, repeats, taken, Seen.holds]
        · simp [member, repeats, taken, Seen.holds, Seen.add, eq_comm]
    · by_cases taken : known.oneof ∈ seen.oneofs
      · simp [member, taken, Seen.holds]
      · simp [member, taken, Seen.holds, Seen.add, eq_comm]

variable {field : WireField} {number : UInt32}

theorem slot_number_iff :
    slotOf descriptor field = some (.number number) ↔ number = field.number ∧
      ∃ known, descriptor.field field.number = some known ∧ known.oneof = noOneof ∧ known.repeated = false := by
  rw [slotOf]
  constructor
  · intro slot
    split at slot
    · cases slot
    · rename_i known found
      split at slot
      · cases slot
      · rename_i outside
        split at slot <;> cases slot
        rename_i singular
        exact ⟨rfl, known, found, not_not.mp outside, Bool.not_eq_true _ ▸ singular⟩
  · rintro ⟨rfl, known, found, outside, singular⟩
    simp [found, outside, singular]

theorem slot_oneof_iff {index : UInt32} :
    slotOf descriptor field = some (.oneof index) ↔
      ∃ known, descriptor.field field.number = some known ∧ known.oneof ≠ noOneof ∧ index = known.oneof := by
  rw [slotOf]
  constructor
  · intro slot
    split at slot
    · cases slot
    · rename_i known found
      split at slot
      · rename_i member
        cases slot
        exact ⟨known, found, member, rfl⟩
      · split at slot <;> cases slot
  · rintro ⟨known, found, member, rfl⟩
    simp [found, member]

def Occurs : Seen → List WireField → Prop
  | _, [] => True
  | seen, field :: rest =>
    ∃ next, checkOccurrence descriptor (descriptor.field field.number) field.number seen = .ok next ∧ Occurs next rest

variable {descriptor} {fields : List WireField}

theorem occurs_iff :
    Occurs descriptor seen fields ↔
      (fields.filterMap (slotOf descriptor)).Nodup ∧ ∀ slot ∈ fields.filterMap (slotOf descriptor), ¬ seen.holds slot := by
  induction fields generalizing seen with
  | nil => simp [Occurs]
  | cons field rest ih =>
    simp only [Occurs, check_occurrence_iff, ih]
    cases slot : slotOf descriptor field with
    | none => simp [slot, Seen.add]
    | some taken =>
      simp only [List.filterMap_cons, slot, List.nodup_cons, List.mem_cons]
      constructor
      · rintro ⟨next, ⟨free, rfl⟩, distinct, unseen⟩
        refine ⟨⟨?_, distinct⟩, ?_⟩
        · intro again
          exact unseen taken again (seen_add_holds.mpr (.inr rfl))
        · rintro other (rfl | later)
          · exact free other rfl
          · exact fun held => unseen other later (seen_add_holds.mpr (.inl held))
      · rintro ⟨⟨once, distinct⟩, unseen⟩
        refine ⟨_, ⟨fun other same => ?_, rfl⟩, distinct, fun other later held => ?_⟩
        · cases same
          exact unseen taken (.inl rfl)
        · rcases seen_add_holds.mp held with before | rfl
          · exact unseen other (.inr later) before
          · exact once later

variable (sorted : Ascending (fun field : FieldDesc => field.number.toNat) descriptor.fields)

include sorted

theorem field_iff {known : FieldDesc} :
    descriptor.field number = some known ↔ known ∈ descriptor.fields ∧ known.number = number := by
  rw [MessageDesc.field, binary_search_item sorted, UInt32.toNat_inj]

theorem conflict_iff (a b : WireField) :
    Conflict descriptor a b ↔ ∃ slot, slotOf descriptor a = some slot ∧ slotOf descriptor b = some slot := by
  constructor
  · rintro ⟨f, inF, g, inG, forA, forB, shared⟩
    have fieldA := (field_iff sorted).mpr ⟨inF, forA⟩
    have fieldB := (field_iff sorted).mpr ⟨inG, forB⟩
    rcases shared with ⟨same, outside, singular⟩ | ⟨member, together⟩
    · refine ⟨.number a.number, (slot_number_iff descriptor).mpr ⟨rfl, f, fieldA, outside, singular⟩, ?_⟩
      rw [same] at fieldA ⊢
      exact (slot_number_iff descriptor).mpr ⟨rfl, f, fieldA, outside, singular⟩
    · refine ⟨.oneof f.oneof, (slot_oneof_iff descriptor).mpr ⟨f, fieldA, member, rfl⟩, ?_⟩
      exact (slot_oneof_iff descriptor).mpr ⟨g, fieldB, together ▸ member, together⟩
  · rintro ⟨slot, slotA, slotB⟩
    cases slot with
    | number number =>
      obtain ⟨sameA, f, fieldA, outside, singular⟩ := (slot_number_iff descriptor).mp slotA
      obtain ⟨sameB, g, fieldB, -⟩ := (slot_number_iff descriptor).mp slotB
      obtain ⟨inF, forA⟩ := (field_iff sorted).mp fieldA
      obtain ⟨inG, forB⟩ := (field_iff sorted).mp fieldB
      exact ⟨f, inF, g, inG, forA, forB, .inl ⟨sameA.symm.trans sameB, outside, singular⟩⟩
    | oneof index =>
      obtain ⟨f, fieldA, member, sameA⟩ := (slot_oneof_iff descriptor).mp slotA
      obtain ⟨g, fieldB, -, sameB⟩ := (slot_oneof_iff descriptor).mp slotB
      obtain ⟨inF, forA⟩ := (field_iff sorted).mp fieldA
      obtain ⟨inG, forB⟩ := (field_iff sorted).mp fieldB
      exact ⟨f, inF, g, inG, forA, forB, .inr ⟨member, sameA.symm.trans sameB⟩⟩

theorem slots_nodup_iff :
    (fields.filterMap (slotOf descriptor)).Nodup ↔ fields.Pairwise fun a b => ¬ Conflict descriptor a b := by
  rw [List.Nodup, List.pairwise_filterMap]
  apply List.Pairwise.iff
  intro a b
  rw [conflict_iff sorted]
  constructor
  · rintro apart ⟨slot, slotA, slotB⟩
    exact apart slot slotA slot slotB rfl
  · rintro apart slot slotA other slotB rfl
    exact apart ⟨slot, slotA, slotB⟩

end Occurrences

section Scan

variable {descriptor : MessageDesc} (nested : UInt32 → Bytes → Scan Unit)

def NestedAccepted (field : Option FieldDesc) (value : WireValue) : Prop :=
  ∀ inner, value = .len inner → ∀ known, field = some known → known.nested ≠ noNested → nested known.nested inner = .ok ()

variable {nested}

variable {field : Option FieldDesc}

theorem scan_nested_iff {inner : Bytes} :
    scanNested nested field inner = .ok () ↔ NestedAccepted nested field (.len inner) := by
  rw [scanNested.eq_def]
  constructor
  · intro scanned other same known found links
    cases same
    rw [found] at scanned
    simpa [links] using scanned
  · intro accepted
    cases field with
    | none => rfl
    | some known =>
      dsimp only
      split
      · rename_i links
        exact accepted inner rfl known rfl links
      · rfl

theorem scan_length_iff (field : Option FieldDesc) (payload rest : Bytes) :
    scanLength descriptor nested field payload = .ok rest ↔
      ∃ inner, readLength descriptor.name payload = some (inner, rest) ∧ NestedAccepted nested field (.len inner) := by
  rw [scanLength, except_bind_ok, readLength]
  constructor
  · rintro ⟨⟨length, after⟩, read, checked⟩
    dsimp only at checked
    split at checked
    · cases checked
    · rename_i inside
      obtain ⟨_, scanned, returned⟩ := except_bind_ok.mp checked
      cases returned
      refine ⟨after.take length.toNat, ?_, scan_nested_iff.mp scanned⟩
      rw [read]
      exact if_neg inside
  · rintro ⟨inner, read, accepted⟩
    split at read
    · rename_i length after varintRead
      refine ⟨(length, after), varintRead, ?_⟩
      dsimp only
      split at read
      · cases read
      · rename_i inside
        cases read
        rw [if_neg inside, except_bind_ok]
        exact ⟨(), scan_nested_iff.mpr accepted, rfl⟩
    · cases read

theorem advance_iff (payload rest : Bytes) (size : Nat) :
    advance descriptor.name payload size = .ok rest ↔ ∃ bytes, readFixed size payload = some (bytes, rest) := by
  rw [advance, readFixed]
  split
  · constructor
    · intro advanced
      cases advanced
    · rintro ⟨bytes, read⟩
      cases read
  · constructor
    · intro advanced
      cases advanced
      exact ⟨_, rfl⟩
    · rintro ⟨bytes, read⟩
      cases read
      rfl

theorem scan_value_iff {wireType : Nat} {payload rest : Bytes} :
    scanValue descriptor nested field wireType payload = .ok rest ↔
      ∃ value, readValue descriptor.name wireType payload = some (value, rest) ∧ NestedAccepted nested field value := by
  have plain : ∀ value : WireValue, (∀ inner, value ≠ .len inner) → NestedAccepted nested field value :=
    fun value other inner same => absurd same (other inner)
  rw [scanValue.eq_def, readValue.eq_def]
  split
  · cases readVarint descriptor.name payload with
    | error stop => simp [Except.map]
    | ok parts => simpa [Except.map] using fun _ => plain _ (by simp)
  · rw [advance_iff]
    simp only [Option.map_eq_some_iff, Prod.exists, Prod.mk.injEq]
    constructor
    · rintro ⟨bytes, read⟩
      exact ⟨.i64 bytes, ⟨bytes, rest, read, rfl, rfl⟩, plain _ (by simp)⟩
    · rintro ⟨value, ⟨bytes, after, read, -, rfl⟩, -⟩
      exact ⟨bytes, read⟩
  · rw [scan_length_iff]
    simp only [Option.map_eq_some_iff, Prod.exists, Prod.mk.injEq]
    constructor
    · rintro ⟨inner, read, accepted⟩
      exact ⟨.len inner, ⟨inner, rest, read, rfl, rfl⟩, accepted⟩
    · rintro ⟨value, ⟨inner, after, read, rfl, rfl⟩, accepted⟩
      exact ⟨inner, read, accepted⟩
  · rw [advance_iff]
    simp only [Option.map_eq_some_iff, Prod.exists, Prod.mk.injEq]
    constructor
    · rintro ⟨bytes, read⟩
      exact ⟨.i32 bytes, ⟨bytes, rest, read, rfl, rfl⟩, plain _ (by simp)⟩
    · rintro ⟨value, ⟨bytes, after, read, -, rfl⟩, -⟩
      exact ⟨bytes, read⟩
  · simp [truncated]

theorem scan_round_iff (rounds : Nat) (byte : UInt8) (payload : Bytes) (seen : Seen) :
    scanFields descriptor nested (rounds + 1) (byte :: payload) seen = .ok () ↔
      ∃ field rest next, readField descriptor.name (byte :: payload) = some (field, rest) ∧
        checkOccurrence descriptor (descriptor.field field.number) field.number seen = .ok next ∧
        NestedAccepted nested (descriptor.field field.number) field.value ∧ scanFields descriptor nested rounds rest next = .ok () := by
  rw [scanFields, except_bind_ok, readField]
  constructor
  · rintro ⟨⟨number, wireType, after⟩, tagRead, scanned⟩
    obtain ⟨next, checked, scanned⟩ := except_bind_ok.mp scanned
    obtain ⟨rest, valueScanned, scanned⟩ := except_bind_ok.mp scanned
    obtain ⟨value, valueRead, accepted⟩ := scan_value_iff.mp valueScanned
    refine ⟨⟨number, value⟩, rest, next, ?_, checked, accepted, scanned⟩
    rw [tagRead]
    simp only [valueRead, Option.map_some]
  · rintro ⟨field, rest, next, read, checked, accepted, scanned⟩
    split at read
    · rename_i number wireType after tagRead
      obtain ⟨⟨value, last⟩, valueRead, same⟩ := Option.map_eq_some_iff.mp read
      cases same
      refine ⟨(number, wireType, after), tagRead, except_bind_ok.mpr ⟨next, checked, except_bind_ok.mpr ⟨last, ?_, scanned⟩⟩⟩
      exact scan_value_iff.mpr ⟨value, valueRead, accepted⟩
    · cases read

theorem scan_fields_iff {rounds : Nat} {payload : Bytes} (enough : payload.length ≤ rounds) (seen : Seen) :
    scanFields descriptor nested rounds payload seen = .ok () ↔
      ∃ fields, Encodes fields payload ∧ Occurs descriptor seen fields ∧
        ∀ field ∈ fields, NestedAccepted nested (descriptor.field field.number) field.value := by
  induction rounds generalizing payload seen with
  | zero =>
    rw [List.eq_nil_of_length_eq_zero (Nat.le_zero.mp enough), scanFields]
    exact iff_of_true rfl ⟨[], .nil, trivial, fun field member => nomatch member⟩
  | succ rounds ih =>
    cases payload with
    | nil =>
      exact iff_of_true rfl ⟨[], .nil, trivial, fun field member => nomatch member⟩
    | cons byte payload =>
      rw [scan_round_iff]
      constructor
      · rintro ⟨field, rest, next, read, checked, accepted, scanned⟩
        obtain ⟨tag, value, split, encoded⟩ := (read_field_iff descriptor.name (byte :: payload) rest).mp read
        have consumed := field_consumes rest encoded
        rw [← split] at consumed
        obtain ⟨others, encodes, occurs, nestedOk⟩ := (ih (by omega) next).mp scanned
        refine ⟨field :: others, ?_, ⟨next, checked, occurs⟩, ?_⟩
        · rw [split]
          exact .cons field others tag value rest encoded encodes
        · intro other member
          rcases List.mem_cons.mp member with rfl | later
          · exact accepted
          · exact nestedOk other later
      · rintro ⟨fields, encodes, occurs, nestedOk⟩
        generalize shape : byte :: payload = whole at encodes enough ⊢
        cases encodes with
        | nil => cases shape
        | cons field others tag value rest first encodesRest =>
          obtain ⟨next, checked, occursRest⟩ := occurs
          have consumed := field_consumes rest first
          refine ⟨field, rest, next, (read_field_iff descriptor.name _ rest).mpr ⟨tag, value, rfl, first⟩, checked,
            nestedOk field List.mem_cons_self, (ih (by omega) next).mpr ⟨others, encodesRest, occursRest, ?_⟩⟩
          exact fun other member => nestedOk other (List.mem_cons_of_mem _ member)

end Scan

theorem validate_levels_iff {table : DescriptorTable} (ordered : TableSorted table) (levels : Nat) (index : UInt32) (payload : Bytes) :
    validateLevels table levels index payload = .ok () ↔ WellFormed table levels index payload := by
  induction levels generalizing index payload with
  | zero =>
    constructor
    · intro accepted
      cases accepted
    · exact False.elim
  | succ levels ih =>
    rw [validateLevels, WellFormed]
    cases held : table[index.toNat]? with
    | none =>
      constructor
      · intro accepted
        cases accepted
      · rintro ⟨descriptor, fields, found, -⟩
        cases found
    | some descriptor =>
      have sorted := ordered descriptor (List.mem_of_getElem? held)
      have nothing : ∀ slot, ¬ (⟨[], []⟩ : Seen).holds slot := by
        intro slot
        cases slot <;> exact List.not_mem_nil
      rw [scan_fields_iff (Nat.le_refl _)]
      constructor
      · rintro ⟨fields, encodes, occurs, accepted⟩
        refine ⟨descriptor, fields, rfl, encodes, (slots_nodup_iff sorted).mp (occurs_iff.mp occurs).1, ?_⟩
        intro field member inner isLen known inside named links
        exact (ih known.nested inner).mp
          (accepted field member inner isLen known ((field_iff sorted).mpr ⟨inside, named⟩) links)
      · rintro ⟨other, fields, found, encodes, apart, nested⟩
        cases found
        refine ⟨fields, encodes, occurs_iff.mpr ⟨(slots_nodup_iff sorted).mpr apart, fun slot _ => nothing slot⟩, ?_⟩
        intro field member inner isLen known found links
        obtain ⟨inside, named⟩ := (field_iff sorted).mp found
        exact (ih known.nested inner).mpr (nested field member inner isLen known inside named links)

end Pkcs11Proxy.Proto
