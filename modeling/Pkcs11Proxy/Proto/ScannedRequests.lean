import Pkcs11Proxy.Proto.ScanAgreement

namespace Pkcs11Proxy.Proto

open Lib

variable {α : Type} {payload : Bytes} {field : Option FieldDesc}

section Panics

def PanicFree {α : Type} (scan : Scan α) : Prop := scan ≠ .error .panicked

theorem panic_free_bind {β : Type} {first : Scan α} {second : α → Scan β} (left : PanicFree first)
    (right : ∀ value, first = .ok value → PanicFree (second value)) : PanicFree (first >>= second) := by
  intro panicked
  rcases except_bind_error.mp panicked with stopped | ⟨value, ended, stopped⟩
  · exact left stopped
  · exact right value ended stopped

variable {message : String}

theorem truncated_panic_free : PanicFree (truncated message : Scan α) := by
  intro panicked
  cases panicked

theorem read_varint_panic_free (message : String) (left : Nat) (value : UInt64) (payload : Bytes) :
    PanicFree (readVarintFrom message left value payload) := by
  induction left generalizing value payload with
  | zero => exact truncated_panic_free
  | succ left ih =>
    cases payload with
    | nil => exact truncated_panic_free
    | cons byte payload =>
      rw [readVarintFrom]
      split
      · exact truncated_panic_free
      · split
        · intro panicked
          cases panicked
        · exact ih _ payload

theorem read_tag_panic_free : PanicFree (readTag message payload) := by
  apply panic_free_bind (read_varint_panic_free message 10 0 payload)
  rintro ⟨tag, rest⟩ -
  intro panicked
  dsimp only at panicked
  split at panicked
  · cases panicked
  · split at panicked
    · cases panicked
    · split at panicked <;> cases panicked

variable {descriptor : MessageDesc} {nested : UInt32 → Bytes → Scan Unit}

theorem check_panic_free {number : UInt32} {seen : Seen} :
    PanicFree (checkOccurrence descriptor field number seen) := by
  intro panicked
  rw [checkOccurrence.eq_def] at panicked
  split at panicked
  · cases panicked
  · split at panicked
    · split at panicked <;> cases panicked
    · split at panicked
      · cases panicked
      · split at panicked <;> cases panicked

variable (inner : ∀ known ∈ descriptor.fields, known.nested ≠ noNested → ∀ payload, PanicFree (nested known.nested payload))

include inner

theorem scan_nested_panic_free (member : ∀ known, field = some known → known ∈ descriptor.fields)
    : PanicFree (scanNested nested field payload) := by
  rw [scanNested.eq_def]
  split
  · intro panicked
    cases panicked
  · rename_i known
    split
    · rename_i links
      exact inner known (member known rfl) links payload
    · intro panicked
      cases panicked

theorem scan_value_panic_free (member : ∀ known, field = some known → known ∈ descriptor.fields)
    {wireType : Nat} : PanicFree (scanValue descriptor nested field wireType payload) := by
  have advances : ∀ size, PanicFree (advance descriptor.name payload size) := by
    intro size panicked
    rw [advance] at panicked
    split at panicked <;> cases panicked
  rw [scanValue.eq_def]
  split
  · intro panicked
    cases read : readVarint descriptor.name payload with
    | ok parts =>
      rw [read] at panicked
      cases panicked
    | error stop =>
      rw [read] at panicked
      cases panicked
      exact read_varint_panic_free descriptor.name 10 0 payload read
  · exact advances 8
  · apply panic_free_bind (read_varint_panic_free descriptor.name 10 0 payload)
    rintro ⟨length, rest⟩ -
    dsimp only
    split
    · exact truncated_panic_free
    · apply panic_free_bind (scan_nested_panic_free inner member)
      intro _ _ panicked
      cases panicked
  · exact advances 4
  · exact truncated_panic_free

theorem scan_fields_panic_free (sorted : Ascending (fun field : FieldDesc => field.number.toNat) descriptor.fields)
    {rounds : Nat} (enough : payload.length ≤ rounds) (seen : Seen) :
    PanicFree (scanFields descriptor nested rounds payload seen) := by
  have done : PanicFree (.ok () : Scan Unit) := by
    intro panicked
    cases panicked
  induction rounds generalizing payload seen with
  | zero =>
    rw [List.eq_nil_of_length_eq_zero (Nat.le_zero.mp enough), scanFields]
    exact done
  | succ rounds ih =>
    cases payload with
    | nil =>
      exact done
    | cons byte payload =>
      apply panic_free_bind read_tag_panic_free
      rintro ⟨number, wireType, after⟩ tagRead
      apply panic_free_bind check_panic_free
      intro next _
      have member : ∀ known, descriptor.field number = some known → known ∈ descriptor.fields :=
        fun known found => ((field_iff sorted).mp found).1
      apply panic_free_bind (scan_value_panic_free inner member)
      intro rest valueScanned
      obtain ⟨tag, split, varint, -⟩ := (read_tag_iff descriptor.name _ after).mp tagRead
      obtain ⟨value, valueRead, -⟩ := scan_value_iff.mp valueScanned
      obtain ⟨bytes, -, follows, -⟩ := read_value_sound descriptor.name valueRead
      have nonempty := varint_nonempty varint
      have whole := congrArg List.length split
      rw [follows, List.length_append, List.length_append] at whole
      exact ih (by omega) next

end Panics

theorem validate_levels_panic_free (table : DescriptorTable) (ordered : TableSorted table) (linked : TableLinked table)
    (levels : Nat) (index : UInt32)
    (valid : index.toNat < table.length) (payload : Bytes) : PanicFree (validateLevels table levels index payload) := by
  induction levels generalizing index payload with
  | zero =>
    intro panicked
    cases panicked
  | succ levels ih =>
    obtain ⟨descriptor, held⟩ : ∃ descriptor, table[index.toNat]? = some descriptor := ⟨_, List.getElem?_eq_getElem valid⟩
    have inside := List.mem_of_getElem? held
    rw [validateLevels, held]
    apply scan_fields_panic_free _ (ordered descriptor inside) (Nat.le_refl _)
    intro known member links inner
    exact ih known.nested ((linked descriptor inside known member).resolve_left links) inner

variable {fields : List WireField}

section Decoders

theorem keep_first_all {slot : WireField → Option Slot} (distinct : (fields.filterMap slot).Nodup) :
    keepFirst slot fields = fields := by
  induction fields with
  | nil => rfl
  | cons field rest ih =>
    have tail : (rest.filterMap slot).Nodup := by
      cases taken : slot field with
      | none =>
        rw [List.filterMap_cons_none taken] at distinct
        exact distinct
      | some first =>
        rw [List.filterMap_cons_some taken] at distinct
        exact (List.nodup_cons.mp distinct).2
    rw [keepFirst, ih tail, List.filter_eq_self.mpr]
    intro later member
    cases taken : slot field with
    | none => cases slot later <;> rfl
    | some first =>
      rw [List.filterMap_cons_some taken] at distinct
      cases other : slot later with
      | none => rfl
      | some second =>
        have apart : second ≠ first := by
          rintro rfl
          exact (List.nodup_cons.mp distinct).1 (List.mem_filterMap.mpr ⟨later, member, other⟩)
        simpa using apart

theorem keep_all (slot : WireField → Option Slot) (fields : List WireField) (distinct : (fields.filterMap slot).Nodup) (keep : Keep) :
    keep.fields slot fields = fields := by
  cases keep with
  | first => exact keep_first_all distinct
  | last =>
    have reversed : (fields.reverse.filterMap slot).Nodup := by
      rw [List.filterMap_reverse]
      exact List.pairwise_reverse.mpr (distinct.imp Ne.symm)
    rw [Keep.fields, keep_first_all reversed, List.reverse_reverse]

theorem decode_all_agrees {decode : Keep → WireField → Option Decoded}
    (each : ∀ field ∈ fields, ∃ value, ∀ keep, decode keep field = some value) :
    ∃ values, ∀ keep, decodeAll (decode keep) fields = some values := by
  induction fields with
  | nil => exact ⟨[], fun _ => rfl⟩
  | cons field rest ih =>
    obtain ⟨value, here⟩ := each field List.mem_cons_self
    obtain ⟨values, others⟩ := ih fun other member => each other (List.mem_cons_of_mem _ member)
    refine ⟨(field.number, value) :: values, fun keep => ?_⟩
    rw [decodeAll, here keep, Option.bind_some, others keep]
    rfl

theorem decode_agrees (table : DescriptorTable) (ordered : TableSorted table) (levels : Nat) (index : UInt32) (payload : Bytes)
    (formed : WellFormed table levels index payload) : ∃ message, ∀ keep, decodeMessage keep table levels index payload = some message := by
  induction levels generalizing index payload with
  | zero => exact formed.elim
  | succ levels ih =>
    obtain ⟨descriptor, fields, held, encodes, apart, nested⟩ := formed
    have sorted := ordered descriptor (List.mem_of_getElem? held)
    have distinct := (slots_nodup_iff sorted).mpr apart
    have each : ∀ field ∈ fields.filter (fun field => (descriptor.field field.number).isSome),
        ∃ value, ∀ keep, decodeField descriptor (decodeMessage keep table levels) field = some value := by
      intro field kept
      obtain ⟨member, isKnown⟩ := List.mem_filter.mp kept
      obtain ⟨known, found⟩ := Option.isSome_iff_exists.mp isKnown
      obtain ⟨inside, named⟩ := (field_iff sorted).mp found
      simp only [decodeField, found]
      cases shape : field.value with
      | varint | i64 | i32 => exact ⟨_, fun _ => rfl⟩
      | len inner =>
        by_cases links : known.nested = noNested
        · exact ⟨_, fun _ => if_neg (not_not.mpr links)⟩
        · obtain ⟨message, decoded⟩ := ih known.nested inner (nested field member inner shape known inside named links)
          exact ⟨message, fun keep => (if_pos links).trans (decoded keep)⟩
    obtain ⟨values, decoded⟩ := decode_all_agrees each
    refine ⟨.message values, fun keep => ?_⟩
    rw [decodeMessage, held, Option.bind_some, (parse_fields_iff descriptor.name payload.length payload (Nat.le_refl _) fields).mpr encodes,
      Option.bind_some, keep_all (slotOf descriptor) fields distinct keep, decoded keep]
    rfl

end Decoders

theorem wire_scan_is_grammar (table : DescriptorTable) (ordered : TableSorted table) (index : UInt32) (payload : Bytes) :
    (validateMessage table index payload 0 = .ok () ↔ WellFormed table (maxDepth + 1) index payload) ∧
      (TableLinked table → index.toNat < table.length → validateMessage table index payload 0 ≠ .error .panicked) ∧
      (validateMessage table index payload 0 = .ok () →
        ∃ message, ∀ keep, decodeMessage keep table (maxDepth + 1) index payload = some message) := by
  have accepts := validate_levels_iff ordered (maxDepth + 1) index payload
  refine ⟨accepts, fun linked valid => ?_, fun accepted => ?_⟩
  · exact validate_levels_panic_free table ordered linked (maxDepth + 1) index valid payload
  · exact decode_agrees table ordered (maxDepth + 1) index payload (accepts.mp accepted)

def selfLinked : DescriptorTable := [⟨"Node", [⟨1, false, noNested, noOneof⟩, ⟨2, false, 0, noOneof⟩]⟩]

theorem wire_scan_is_grammar_node : validateMessage selfLinked 0 [8, 5, 18, 2, 8, 7] 0 = .ok () ∧
    WellFormed selfLinked (maxDepth + 1) 0 [8, 5, 18, 2, 8, 7] ∧ ∀ payload, validateMessage selfLinked 0 payload 0 ≠ .error .panicked := by
  have ordered : TableSorted selfLinked := by simp [TableSorted, selfLinked, Ascending]
  have linked : TableLinked selfLinked := by simp [TableLinked, selfLinked]
  have accepted : validateMessage selfLinked 0 [8, 5, 18, 2, 8, 7] 0 = .ok () := by decide +kernel
  refine ⟨accepted, (wire_scan_is_grammar selfLinked ordered 0 [8, 5, 18, 2, 8, 7]).1.mp accepted, fun payload => ?_⟩
  exact (wire_scan_is_grammar selfLinked ordered 0 payload).2.1 linked (by decide)

theorem conflict_symm {descriptor : MessageDesc} {a b : WireField} : Conflict descriptor a b → Conflict descriptor b a := by
  rintro ⟨f, left, g, right, first, second, ⟨same, plain⟩ | ⟨member, same⟩⟩
  · exact ⟨f, left, f, left, first.trans same, first, .inl ⟨same.symm, plain⟩⟩
  · exact ⟨g, right, f, left, second, first, .inr ⟨same ▸ member, same.symm⟩⟩

theorem well_formed_reordered {table : DescriptorTable} {levels : Nat} {index : UInt32} {others : List WireField}
    {reordered : Bytes} (first : Encodes fields payload) (second : Encodes others reordered) (same : fields.Perm others)
    (formed : WellFormed table (levels + 1) index payload) : WellFormed table (levels + 1) index reordered := by
  obtain ⟨descriptor, found, held, again, apart, nested⟩ := formed
  have parse := parse_fields_iff "" payload.length payload (Nat.le_refl _)
  have unique : found = fields := Option.some.inj (((parse found).mpr again).symm.trans ((parse fields).mpr first))
  subst unique
  refine ⟨descriptor, others, held, second, ?_, fun field member => nested field (same.mem_iff.mpr member)⟩
  exact (same.pairwise_iff fun clear conflict => clear (conflict_symm conflict)).mp apart

-- The verdict on a request depends on its fields alone: neither on their order nor on
-- how long a form their varints are written in.
theorem scan_ignores_order (table : DescriptorTable) (ordered : TableSorted table) (requests : List (String × UInt32)) (path : String)
    (fields others : List WireField) (payload reordered : Bytes) (first : Encodes fields payload) (second : Encodes others reordered)
    (same : fields.Perm others) :
    validateRequestWire table requests path payload = .ok () ↔ validateRequestWire table requests path reordered = .ok () := by
  rw [validateRequestWire, validateRequestWire]
  split
  · rename_i index _
    have accepts := validate_levels_iff ordered (maxDepth + 1) index
    refine (accepts payload).trans (Iff.trans ?_ (accepts reordered).symm)
    exact ⟨well_formed_reordered first second same, well_formed_reordered second first same.symm⟩
  · rfl

theorem scan_ignores_order_node : validateRequestWire selfLinked [("/p/m", 0)] "/p/m" [8, 5, 18, 2, 8, 7] = .ok () ↔
    validateRequestWire selfLinked [("/p/m", 0)] "/p/m" [18, 130, 0, 8, 7, 8, 5] = .ok () :=
  scan_ignores_order selfLinked (by simp [TableSorted, selfLinked, Ascending]) _ _ [⟨1, .varint 5⟩, ⟨2, .len [8, 7]⟩] _ _ _
    ((parse_fields_iff "" 6 _ (by decide) _).mp (by decide +kernel)) ((parse_fields_iff "" 7 _ (by decide) _).mp (by decide +kernel))
    (.swap _ _ _)

end Pkcs11Proxy.Proto
