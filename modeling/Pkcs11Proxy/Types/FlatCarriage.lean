import Pkcs11Proxy.Types.LayoutPartition
import Pkcs11Proxy.Types.ValidatedParams

namespace Pkcs11Proxy.Types

open Lib

variable {leaf : LeafClass × Nat} {shape : String} {resolved : ResolvedShape}
  {boundShape : Option String} {ctx : OperationContext} {grant : FlatGrant}

section Layout

variable (abi : ParamAbi)

def ReferenceByte (fields : List FieldClass) (byte : Nat) : Prop :=
  ∃ leaf ∈ leavesOf fields abi, leaf.1.carriesReference = true ∧ leaf.2 ≤ byte ∧ byte < leaf.2 + leaf.1.size abi

theorem safe_extent {fields : List FieldClass} {length : Nat}
    (confined : ∀ first, firstUnsafeOffsetOf fields abi = some first → length ≤ first) (byte : Nat) (below : byte < length) :
    ¬ ReferenceByte abi fields byte := by
  rintro ⟨leaf, member, carries, starts, -⟩
  obtain ⟨first, found, before⟩ := first_unsafe_le abi member carries
  have bound := confined first found
  omega

end Layout

section Table

theorem shape_names_ascend : Ascending ShapeDescriptor.name shapeDescriptors := by
  unfold Ascending
  decide +kernel

theorem descriptor_found {found : ShapeDescriptor} :
    ShapeResolver.descriptor shape = some found ↔ found ∈ shapeDescriptors ∧ found.name = shape :=
  binary_search_item shape_names_ascend

def OuterKind.isBare (kind : OuterKind) : Bool := kind = .parameterless ∨ kind = .byteBuffer

theorem bare_forms_empty : ∀ descriptor ∈ shapeDescriptors, (descriptor.outerKind.isBare → descriptor.fields = []) ∧
    ∀ form ∈ descriptor.alternateForms, form.outerKind.isBare → form.fields = [] := by
  decide +kernel

theorem primary_compiled (found : (ShapeResolver.descriptor shape).map ResolvedShape.primary = some resolved) :
    resolved.descriptor ∈ shapeDescriptors ∧ ∀ form, resolved.alternate = some form → form ∈ resolved.descriptor.alternateForms := by
  obtain ⟨descriptor, held, rfl⟩ := Option.map_eq_some_iff.mp found
  exact ⟨(descriptor_found.mp held).1, nofun⟩

variable {abi : ParamAbi}

theorem resolve_compiled (found : ShapeResolver.resolve boundShape ctx abi = some resolved) :
    resolved.descriptor ∈ shapeDescriptors ∧ ∀ form, resolved.alternate = some form → form ∈ resolved.descriptor.alternateForms := by
  rw [ShapeResolver.resolve] at found
  split at found
  · exact primary_compiled found
  split at found
  · exact primary_compiled found
  obtain ⟨shape, -, found⟩ := Option.bind_eq_some_iff.mp found
  obtain ⟨descriptor, held, found⟩ := Option.bind_eq_some_iff.mp found
  cases found
  exact ⟨(descriptor_found.mp held).1, fun form chosen => List.mem_of_find?_eq_some chosen⟩

theorem bare_without_layout
    (found : ShapeResolver.resolve boundShape ctx abi = some resolved) (bare : resolved.outerKind.isBare = true) :
    resolved.nativeSize abi = none := by
  obtain ⟨compiled, alternates⟩ := resolve_compiled found
  have table := bare_forms_empty resolved.descriptor compiled
  have empty : resolved.fields = [] := by
    obtain ⟨descriptor, alternate⟩ := resolved
    cases alternate with
    | none => exact table.1 bare
    | some form => exact table.2 form (alternates form rfl) bare
  rw [ResolvedShape.nativeSize, empty]
  rfl

end Table

section Decision

variable {req : FlatRequest}

theorem decide_struct_eligible (granted : decideStruct req resolved = .eligible grant) :
    resolved.nativeSize req.localAbi ≠ some req.declaredLen.toNat ∧ req.peerAbi = req.localAbi ∧
      req.peerFingerprint = resolved.fingerprint req.localAbi ∧
      ∀ byte < req.declaredLen.toNat, ¬ ReferenceByte req.localAbi resolved.fields byte := by
  rw [decideStruct] at granted
  split at granted
  · cases granted
  rename_i notFull
  split at granted
  · cases granted
  rename_i sameAbi
  dsimp only at granted
  split at granted
  · cases granted
  rename_i sameLayout
  have strict : resolved.nativeSize req.localAbi ≠ some req.declaredLen.toNat := by
    intro full
    rw [full] at notFull
    exact notFull (congrArg some UInt64.ofNat_toNat.symm)
  refine ⟨strict, not_not.mp sameAbi, not_not.mp sameLayout, safe_extent req.localAbi ?_⟩
  intro first found
  rw [ResolvedShape.firstUnsafeOffset, found] at granted
  dsimp only at granted
  split at granted
  · rename_i confined
    have bound := UInt64.le_iff_toNat_le.mp confined
    exact Nat.le_trans bound (Nat.mod_le _ _)
  · cases granted

theorem decide_flat_eligible (granted : decideFlat req = .eligible grant) :
    req.excluded = false ∧ req.declaredLen ≤ flatMaxBytes ∧
      (isVendorMechanism req.mechanism = true →
        vendorFlatAllowed vendorFlatAllowlist req.mechanism req.boundShape req.parameterlessListed = true) ∧
      (ShapeResolver.resolve req.boundShape ⟨req.mechanism, req.operation, req.declaredLen⟩ req.localAbi = none ∧
          req.boundShape = none ∧ req.parameterlessListed = true ∨
        ∃ resolved, ShapeResolver.resolve req.boundShape ⟨req.mechanism, req.operation, req.declaredLen⟩ req.localAbi = some resolved ∧
          (resolved.outerKind.isBare = true ∨ resolved.outerKind ≠ .nestedOrOutput ∧ decideStruct req resolved = .eligible grant)) := by
  rw [decideFlat] at granted
  split at granted
  · cases granted
  rename_i notExcluded
  split at granted
  · cases granted
  rename_i underCap
  split at granted
  · cases granted
  rename_i vendor
  refine ⟨Bool.not_eq_true _ ▸ notExcluded, UInt64.not_lt.mp underCap, ?_, ?_⟩
  · intro isVendor
    by_contra refused
    simp [isVendor, refused] at vendor
  · cases found : ShapeResolver.resolve req.boundShape ⟨req.mechanism, req.operation, req.declaredLen⟩ req.localAbi with
    | none =>
      rw [found] at granted
      dsimp only at granted
      split at granted
      · rename_i unbound listed _
        exact .inl ⟨rfl, unbound, listed⟩
      · cases granted
    | some resolved =>
      rw [found] at granted
      dsimp only at granted
      refine .inr ⟨resolved, rfl, ?_⟩
      cases kind : resolved.outerKind with
      | parameterless | byteBuffer => exact .inl rfl
      | nestedOrOutput =>
        rw [kind] at granted
        cases granted
      | scalarStruct | pointerStruct =>
        rw [kind] at granted
        exact .inr ⟨by decide, granted⟩

end Decision

section Validate

variable (registry : MechanismRegistry) (operation : Operation) (localAbi backendAbi : ParamAbi)

def formAt (mechType : UInt64) (length : UInt64) : Option ResolvedShape :=
  ShapeResolver.resolve (registry.paramShape mechType) ⟨mechType, operation, length⟩ localAbi

theorem accepted_flat_confined (mechanismType : CkMechanismType) (flat : FlatParams) (validated : ValidatedMechanismParams)
    (accepted : validate registry operation localAbi backendAbi ⟨mechanismType, some (.flat flat)⟩ = .ok validated) :
    flat.bytes.length = flat.declaredLen.toNat ∧ flat.declaredLen.toNat ≤ 64 * 1024 ∧
      mechanismType.value ∉ registry.excludedView ∧
      (isVendorMechanism mechanismType.value = true → vendorFlatAllowed vendorFlatAllowlist mechanismType.value
        (registry.paramShape mechanismType.value) (registry.isParameterless mechanismType.value) = true) ∧
      (formAt registry operation localAbi mechanismType.value flat.declaredLen = none ∧
          registry.paramShape mechanismType.value = none ∧ registry.isParameterless mechanismType.value = true ∨
        ∃ form, formAt registry operation localAbi mechanismType.value flat.declaredLen = some form ∧
          form.outerKind ≠ .nestedOrOutput ∧ form.nativeSize localAbi ≠ some flat.declaredLen.toNat ∧
          (form.outerKind = .parameterless ∨ form.outerKind = .byteBuffer ∨
            flat.sourceAbi = some localAbi ∧ flat.fingerprint = form.fingerprint localAbi ∧
              ∀ byte < flat.declaredLen.toNat, ¬ ReferenceByte localAbi form.fields byte)) := by
  obtain ⟨notExcluded, grant, checked, -⟩ := (validate_ok registry operation localAbi backendAbi).mp accepted
  obtain ⟨accepts, flatChecked, -⟩ := except_bind_ok.mp checked
  obtain ⟨granted, classified, -⟩ := except_bind_ok.mp flatChecked
  obtain ⟨sameLength, peerAbi, source, eligible⟩ := classify_flat_ok registry operation localAbi classified
  obtain ⟨-, underCap, vendor, resolved⟩ := decide_flat_eligible eligible
  refine ⟨sameLength, UInt64.le_iff_toNat_le.mp underCap, notExcluded, vendor, ?_⟩
  rcases resolved with parameterless | ⟨form, found, carried⟩
  · exact .inl parameterless
  · refine .inr ⟨form, found, ?_⟩
    rcases carried with bare | ⟨notNested, struct⟩
    · have noLayout := bare_without_layout found bare
      have kinds : form.outerKind = .parameterless ∨ form.outerKind = .byteBuffer := of_decide_eq_true bare
      refine ⟨?_, ?_, ?_⟩
      · rcases kinds with same | same <;> rw [same] <;> decide
      · intro full
        rw [noLayout] at full
        cases full
      · rcases kinds with same | same
        · exact .inl same
        · exact .inr (.inl same)
    · obtain ⟨notFull, sameAbi, sameLayout, safe⟩ := decide_struct_eligible struct
      exact ⟨notNested, notFull, .inr (.inr ⟨source.trans (congrArg some sameAbi), sameLayout, safe⟩)⟩

def oaepPrefixed : FlatParams where
  bytes := List.replicate 24 7
  declaredLen := 24
  sourceAbi := some .lp64NativeLe
  fingerprint := 0xf7281bc97bdb29aa
  version := 1

def oaepRegistry : MechanismRegistry := ⟨(∅ : Dict UInt64 String).insert 9 "rsa_oaep", ∅, ∅⟩

theorem accepted_flat_confined_oaep :
    ∃ validated, validate oaepRegistry .general .lp64NativeLe .lp64NativeLe ⟨⟨9⟩, some (.flat oaepPrefixed)⟩ = .ok validated ∧
      ∃ form, formAt oaepRegistry .general .lp64NativeLe 9 24 = some form ∧ form.outerKind = .pointerStruct ∧
        ∀ byte < 24, ¬ ReferenceByte .lp64NativeLe form.fields byte := by
  obtain ⟨validated, accepted⟩ := except_is_ok
    (validate oaepRegistry .general .lp64NativeLe .lp64NativeLe ⟨⟨9⟩, some (.flat oaepPrefixed)⟩) (by decide +kernel)
  have bound : (formAt oaepRegistry .general .lp64NativeLe 9 24).map ResolvedShape.outerKind = some .pointerStruct := by
    decide +kernel
  obtain ⟨form, found, kind⟩ := Option.map_eq_some_iff.mp bound
  refine ⟨validated, accepted, form, found, kind, ?_⟩
  obtain ⟨-, -, -, -, carried⟩ := accepted_flat_confined _ _ _ _ _ _ _ accepted
  rcases carried with ⟨absent, -⟩ | ⟨other, same, -, -, carried⟩
  · cases found.symm.trans absent
  · cases found.symm.trans same
    rw [kind] at carried
    rcases carried with other | other | ⟨-, -, safe⟩
    · cases other
    · cases other
    · exact safe

end Validate

end Pkcs11Proxy.Types
