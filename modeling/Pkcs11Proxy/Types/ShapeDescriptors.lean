import Mathlib.Data.String.Basic
import Pkcs11Proxy.Lib.BinarySearch
import Pkcs11Proxy.Types.Layout

namespace Pkcs11Proxy.Types

open Lib

inductive OuterKind where
  | parameterless
  | byteBuffer
  | scalarStruct
  | pointerStruct
  | nestedOrOutput
deriving DecidableEq

inductive Operation where
  | general
  | wrapKey
deriving DecidableEq

structure AlternateForm where
  name : String
  outerKind : OuterKind
  fields : List FieldClass
deriving DecidableEq

structure ShapeDescriptor where
  name : String
  outerKind : OuterKind
  fields : List FieldClass
  alternateForms : List AlternateForm
deriving DecidableEq

def gcmFields : List FieldClass := [.pointer, .ulong, .ulong, .pointer, .ulong, .ulong]

def randomDataInnerFields : List LeafClass := [.pointer, .ulong, .pointer, .ulong]

def bareShape (name : String) (outerKind : OuterKind) : ShapeDescriptor := ⟨name, outerKind, [], []⟩

def scalarShape (name : String) (fields : List FieldClass) : ShapeDescriptor := ⟨name, .scalarStruct, fields, []⟩

def pointerShape (name : String) (fields : List FieldClass) : ShapeDescriptor := ⟨name, .pointerStruct, fields, []⟩

def nestedShape (name : String) (fields : List FieldClass) : ShapeDescriptor := ⟨name, .nestedOrOutput, fields, []⟩

def shapeDescriptors : List ShapeDescriptor :=
  [ pointerShape "aes_cbc_encrypt_data" [.bytes 16, .pointer, .ulong],
    scalarShape "aes_ctr" [.ulong, .bytes 16],
    pointerShape "aria_cbc_encrypt_data" [.bytes 16, .pointer, .ulong],
    pointerShape "camellia_cbc_encrypt_data" [.bytes 16, .pointer, .ulong],
    scalarShape "camellia_ctr" [.ulong, .bytes 16],
    pointerShape "ccm" [.ulong, .pointer, .ulong, .pointer, .ulong, .ulong],
    pointerShape "ccm_wrap" [.ulong, .pointer, .ulong, .ulong, .ulong, .pointer, .ulong, .ulong],
    pointerShape "chacha20" [.pointer, .ulong, .pointer, .ulong],
    pointerShape "des_cbc_encrypt_data" [.bytes 8, .pointer, .ulong],
    pointerShape "ecdh1_derive" [.ulong, .ulong, .pointer, .ulong, .pointer],
    pointerShape "ecdh2_derive" [.ulong, .ulong, .pointer, .ulong, .pointer, .ulong, .handle, .ulong, .pointer],
    pointerShape "ecdh_aes_key_wrap" [.ulong, .ulong, .ulong, .pointer],
    pointerShape "ecmqv_derive" [.ulong, .ulong, .pointer, .ulong, .pointer, .ulong, .handle, .ulong, .pointer, .handle],
    pointerShape "eddsa" [.u8, .ulong, .pointer],
    scalarShape "extract" [.ulong],
    pointerShape "gcm" gcmFields,
    ⟨"gcm_compat", .byteBuffer, [], [⟨"struct", .pointerStruct, gcmFields⟩]⟩,
    pointerShape "gcm_wrap" [.pointer, .ulong, .ulong, .ulong, .pointer, .ulong, .ulong],
    pointerShape "gostr3410_derive" [.ulong, .pointer, .ulong, .pointer, .ulong],
    pointerShape "gostr3410_key_wrap" [.pointer, .ulong, .pointer, .ulong, .handle],
    pointerShape "hkdf" [.u8, .u8, .ulong, .ulong, .pointer, .ulong, .handle, .pointer, .ulong],
    pointerShape "ike1_extended_derive" [.ulong, .u8, .handle, .pointer, .ulong],
    pointerShape "ike1_prf_derive" [.ulong, .u8, .handle, .handle, .pointer, .ulong, .pointer, .ulong, .u8],
    pointerShape "ike2_prf_plus_derive" [.ulong, .u8, .handle, .pointer, .ulong],
    pointerShape "ike_prf_derive" [.ulong, .u8, .u8, .pointer, .ulong, .pointer, .ulong, .handle],
    bareShape "iv" .byteBuffer,
    nestedShape "kea_derive" [.u8, .ulong, .pointer, .pointer, .ulong, .pointer],
    pointerShape "key_derivation_string" [.pointer, .ulong],
    pointerShape "key_wrap_set_oaep" [.u8, .pointer, .ulong],
    nestedShape "kip" [.pointer, .handle, .pointer, .ulong],
    pointerShape "kmac" [.handle, .ulong, .pointer, .ulong],
    scalarShape "mac_general" [.ulong],
    pointerShape "mu_gen" [.handle, .pointer, .ulong, .pointer, .ulong],
    scalarShape "object_handle" [.handle],
    nestedShape "otp" [.pointer, .ulong],
    bareShape "parameterless" .parameterless,
    pointerShape "pbe" [.pointer, .pointer, .ulong, .pointer, .ulong, .ulong],
    pointerShape "pkcs5_pbkd2" [.ulong, .pointer, .ulong, .ulong, .ulong, .pointer, .ulong, .pointer, .ulong],
    scalarShape "rc2_cbc" [.ulong, .bytes 8],
    scalarShape "rc2_mac_general" [.ulong, .ulong],
    scalarShape "rc5" [.ulong, .ulong],
    pointerShape "rc5_cbc" [.ulong, .ulong, .pointer, .ulong],
    scalarShape "rc5_mac_general" [.ulong, .ulong, .ulong],
    pointerShape "rsa_aes_key_wrap" [.ulong, .pointer],
    pointerShape "rsa_oaep" [.ulong, .ulong, .ulong, .pointer, .ulong],
    scalarShape "rsa_pss" [.ulong, .ulong, .ulong],
    pointerShape "salsa20" [.pointer, .pointer, .ulong],
    pointerShape "salsa20_chacha20_poly1305" [.pointer, .ulong, .pointer, .ulong],
    pointerShape "seed_cbc_encrypt_data" [.bytes 16, .pointer, .ulong],
    ⟨"sign_additional_context", .pointerStruct, [.ulong, .pointer, .ulong],
      [⟨"hash", .pointerStruct, [.ulong, .pointer, .ulong, .ulong]⟩]⟩,
    nestedShape "skipjack_private_wrap"
      [.ulong, .pointer, .ulong, .pointer, .ulong, .ulong, .ulong, .pointer, .pointer, .pointer, .pointer],
    nestedShape "skipjack_relayx"
      [.ulong, .pointer, .ulong, .pointer, .ulong, .pointer, .ulong, .pointer, .ulong, .pointer, .ulong, .pointer, .ulong,
        .pointer],
    nestedShape "sp800_108_feedback_kdf" [.ulong, .ulong, .pointer, .ulong, .pointer, .ulong, .pointer],
    nestedShape "sp800_108_kdf" [.ulong, .ulong, .pointer, .ulong, .pointer],
    ⟨"ssl3_key_mat", .nestedOrOutput, [.ulong, .ulong, .ulong, .u8, .nested randomDataInnerFields, .pointer],
      [⟨"tls12", .nestedOrOutput, [.ulong, .ulong, .ulong, .u8, .nested randomDataInnerFields, .pointer, .ulong]⟩]⟩,
    pointerShape "ssl3_master_key_derive" [.nested randomDataInnerFields, .pointer],
    pointerShape "tls12_extended_master_key_derive" [.ulong, .pointer, .ulong, .pointer],
    pointerShape "tls12_master_key_derive" [.nested randomDataInnerFields, .pointer, .ulong],
    pointerShape "tls_kdf" [.ulong, .pointer, .ulong, .nested randomDataInnerFields, .pointer, .ulong],
    scalarShape "tls_mac" [.ulong, .ulong, .ulong],
    nestedShape "tls_prf" [.pointer, .ulong, .pointer, .ulong, .pointer, .pointer],
    nestedShape "wtls_key_mat" [.ulong, .ulong, .ulong, .ulong, .ulong, .u8, .nested randomDataInnerFields, .pointer],
    pointerShape "wtls_master_key_derive" [.ulong, .nested randomDataInnerFields, .pointer],
    nestedShape "wtls_prf" [.ulong, .pointer, .ulong, .pointer, .ulong, .pointer, .pointer],
    pointerShape "x942_dh1_derive" [.ulong, .ulong, .pointer, .ulong, .pointer],
    pointerShape "x942_dh2_derive" [.ulong, .ulong, .pointer, .ulong, .pointer, .ulong, .handle, .ulong, .pointer],
    pointerShape "x942_mqv_derive" [.ulong, .ulong, .pointer, .ulong, .pointer, .ulong, .handle, .ulong, .pointer, .handle],
    scalarShape "xeddsa" [.ulong] ]

structure OperationContext where
  mechanism : UInt64
  operation : Operation
  length : UInt64

structure ResolvedShape where
  descriptor : ShapeDescriptor
  alternate : Option AlternateForm
deriving DecidableEq

namespace ResolvedShape

def primary (descriptor : ShapeDescriptor) : ResolvedShape := ⟨descriptor, none⟩

def outerKind (resolved : ResolvedShape) : OuterKind :=
  match resolved.alternate with
  | some form => form.outerKind
  | none => resolved.descriptor.outerKind

def fields (resolved : ResolvedShape) : List FieldClass :=
  match resolved.alternate with
  | some form => form.fields
  | none => resolved.descriptor.fields

def formName (resolved : ResolvedShape) : String :=
  match resolved.alternate with
  | some form => form.name
  | none => ""

def nativeSize (resolved : ResolvedShape) (abi : ParamAbi) : Option Nat :=
  if resolved.fields.isEmpty then none else some (nativeSizeOf resolved.fields abi)

def firstUnsafeOffset (resolved : ResolvedShape) (abi : ParamAbi) : Option Nat := firstUnsafeOffsetOf resolved.fields abi

def fingerprint (resolved : ResolvedShape) (abi : ParamAbi) : UInt64 :=
  if resolved.fields.isEmpty then abiExemptFingerprint
  else layoutFingerprint resolved.descriptor.name resolved.formName abi resolved.fields

end ResolvedShape

namespace ShapeResolver

def descriptor (shape : String) : Option ShapeDescriptor :=
  (binarySearchByKey ShapeDescriptor.name shape shapeDescriptors).bind fun index => shapeDescriptors[index]?

def wrapNativeLen (name : String) (abi : ParamAbi) : Option UInt64 :=
  ((descriptor name).bind fun found => (ResolvedShape.primary found).nativeSize abi).map UInt64.ofNat

def ckmAesGcm : UInt64 := 0x1087
def ckmAesCcm : UInt64 := 0x1088

def resolve (boundShape : Option String) (ctx : OperationContext) (localAbi : ParamAbi) : Option ResolvedShape :=
  if ctx.operation = .wrapKey ∧ ctx.mechanism = ckmAesGcm ∧ some ctx.length = wrapNativeLen "gcm_wrap" localAbi then
    (descriptor "gcm_wrap").map .primary
  else if ctx.operation = .wrapKey ∧ ctx.mechanism = ckmAesCcm ∧ some ctx.length = wrapNativeLen "ccm_wrap" localAbi then
    (descriptor "ccm_wrap").map .primary
  else do
    let found ← descriptor (← boundShape)
    return ⟨found, found.alternateForms.find? fun form => ctx.length ≥ UInt64.ofNat (nativeSizeOf form.fields localAbi)⟩

end ShapeResolver

def flatMaxBytes : UInt64 := 64 * 1024

def vendorMechanismMin : UInt64 := 0x80000000

def vendorFlatAllowlist : List (UInt64 × String) := []

def isVendorMechanism (mechanism : UInt64) : Bool := mechanism ≥ vendorMechanismMin

def effectiveShape (boundShape : Option String) (parameterlessListed : Bool) : Option String :=
  match boundShape, parameterlessListed with
  | some shape, _ => some shape
  | none, true => some "parameterless"
  | none, false => none

def vendorFlatAllowed (allowlist : List (UInt64 × String)) (mechanism : UInt64) (boundShape : Option String)
    (parameterlessListed : Bool) : Bool :=
  match effectiveShape boundShape parameterlessListed with
  | some shape => allowlist.any fun entry => entry.1 = mechanism ∧ entry.2 = shape
  | none => false

structure FlatRequest where
  mechanism : UInt64
  operation : Operation
  declaredLen : UInt64
  boundShape : Option String
  parameterlessListed : Bool
  excluded : Bool
  peerFingerprint : UInt64
  peerAbi : ParamAbi
  localAbi : ParamAbi

inductive FlatDenyReason where
  | overCap
  | vendorWithoutAllowlist
  | unknownShape
  | nestedOrOutput
  | fullNativeImage
  | abiMismatch (expected got : ParamAbi)
  | fingerprintMismatch (expected got : UInt64)
  | prefixTooLong (declaredLen firstUnsafeOffset : UInt64)
deriving DecidableEq

structure FlatGrant where
  resolved : ResolvedShape
  fingerprint : UInt64
  localAbi : ParamAbi
deriving DecidableEq

inductive FlatDecision where
  | eligible (grant : FlatGrant)
  | denied (reason : FlatDenyReason)
  | excluded
deriving DecidableEq

def decideStruct (req : FlatRequest) (resolved : ResolvedShape) : FlatDecision :=
  if some req.declaredLen = (resolved.nativeSize req.localAbi).map UInt64.ofNat then .denied .fullNativeImage
  else if req.peerAbi ≠ req.localAbi then .denied (.abiMismatch req.localAbi req.peerAbi)
  else
    let expected := resolved.fingerprint req.localAbi
    if req.peerFingerprint ≠ expected then .denied (.fingerprintMismatch expected req.peerFingerprint)
    else
      match resolved.firstUnsafeOffset req.localAbi with
      | some first =>
        if req.declaredLen ≤ UInt64.ofNat first then .eligible ⟨resolved, expected, req.localAbi⟩
        else .denied (.prefixTooLong req.declaredLen (UInt64.ofNat first))
      | none => .eligible ⟨resolved, expected, req.localAbi⟩

def decideFlat (req : FlatRequest) : FlatDecision :=
  if req.excluded then .excluded
  else if req.declaredLen > flatMaxBytes then .denied .overCap
  else if isVendorMechanism req.mechanism &&
      !vendorFlatAllowed vendorFlatAllowlist req.mechanism req.boundShape req.parameterlessListed then
    .denied .vendorWithoutAllowlist
  else
    match ShapeResolver.resolve req.boundShape ⟨req.mechanism, req.operation, req.declaredLen⟩ req.localAbi with
    | none =>
      match req.boundShape, req.parameterlessListed, ShapeResolver.descriptor "parameterless" with
      | none, true, some descriptor => .eligible ⟨.primary descriptor, abiExemptFingerprint, req.localAbi⟩
      | _, _, _ => .denied .unknownShape
    | some resolved =>
      match resolved.outerKind with
      | .parameterless | .byteBuffer => .eligible ⟨resolved, abiExemptFingerprint, req.localAbi⟩
      | .nestedOrOutput => .denied .nestedOrOutput
      | .scalarStruct | .pointerStruct => decideStruct req resolved

end Pkcs11Proxy.Types
