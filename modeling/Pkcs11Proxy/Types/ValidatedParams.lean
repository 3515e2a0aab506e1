import Pkcs11Proxy.Lib.Checked
import Pkcs11Proxy.Lib.Dict
import Pkcs11Proxy.Types.MechanismTree
import Pkcs11Proxy.Types.ShapeDescriptors

namespace Pkcs11Proxy.Types

open Lib

structure MechanismRegistry where
  paramShapes : Dict UInt64 String
  parameterless : Finset UInt64
  disabled : Finset UInt64

section

variable (registry : MechanismRegistry)

def MechanismRegistry.paramShape (mechType : UInt64) : Option String :=
  registry.paramShapes.lookup mechType

def MechanismRegistry.isParameterless (mechType : UInt64) : Bool := mechType ∈ registry.parameterless

def MechanismRegistry.excludedView : Finset UInt64 := registry.disabled

def decideFlatForRegistry (mechanism : UInt64) (operation : Operation) (declaredLen : UInt64)
    (peerFingerprint : UInt64) (peerAbi localAbi : ParamAbi) : FlatDecision :=
  decideFlat {
    mechanism, operation, declaredLen, peerFingerprint, peerAbi, localAbi
    boundShape := registry.paramShape mechanism
    parameterlessListed := registry.isParameterless mechanism
    excluded := mechanism ∈ registry.excludedView }

def mechanismParameterTransportVersion : UInt32 := 1

def checkMemberVersion (version : UInt32) : Except CkRv Unit :=
  if version < mechanismParameterTransportVersion then .error .mechanismParamInvalid
  else if version > mechanismParameterTransportVersion then .error .functionNotSupported
  else .ok ()

def narrowLenForBackend (declaredLen : UInt64) (backendAbi : ParamAbi) : Except CkRv Unit :=
  if backendAbi.ulongSize ≥ 8 ∨ declaredLen.toNat < UInt32.size then .ok () else .error .functionFailed

def checkNullBitPair (isZero isNull : Bool) : Except CkRv Unit :=
  if isNull && !isZero then .error .mechanismParamInvalid else .ok ()

def checkSp800108DerivedKey (key : Sp800108DerivedKey) : Except CkRv Unit :=
  checkNullBitPair (key.keyHandle.value = 0) key.phKeyIsNull

def checkSp800108DerivedKeys (keys : PointerArray Sp800108DerivedKey) : Except CkRv Unit :=
  match keys.asPresent with
  | some present => present.forM checkSp800108DerivedKey
  | none => .ok ()

def PointerBytes.isEmpty (peer : PointerBytes) : Bool := (peer.asPresent.map List.isEmpty).getD true

def checkTypedPresence : CkMechanismParams CkObjectHandle → Except CkRv Unit
  | .tlsPrf p => do
      checkNullBitPair p.output.isEmpty p.outputIsNull
      checkNullBitPair (p.outputLen = 0) p.outputLenIsNull
  | .ssl3MasterKeyDerive p => checkNullBitPair (p.versionMajor = 0 ∧ p.versionMinor = 0) p.versionIsNull
  | .tls12MasterKeyDerive p => checkNullBitPair (p.versionMajor = 0 ∧ p.versionMinor = 0) p.versionIsNull
  | .tls12ExtendedMasterKeyDerive p => checkNullBitPair (p.versionMajor = 0 ∧ p.versionMinor = 0) p.versionIsNull
  | .ssl3KeyMat p =>
    checkNullBitPair (p.clientMacSecretHandle.value = 0 ∧ p.serverMacSecretHandle.value = 0 ∧ p.clientKeyHandle.value = 0 ∧
      p.serverKeyHandle.value = 0 ∧ p.clientIvPresence.isEmpty ∧ p.serverIvPresence.isEmpty) p.returnedKeyMaterialIsNull
  | .wtlsMasterKeyDerive p => checkNullBitPair (p.version = 0) p.versionIsNull
  | .wtlsPrf p => do
      checkNullBitPair p.output.isEmpty p.outputIsNull
      checkNullBitPair (p.outputLen = 0) p.outputLenIsNull
  | .wtlsKeyMat p =>
    checkNullBitPair (p.macSecretHandle.value = 0 ∧ p.keyHandle.value = 0 ∧ p.ivPresence.isEmpty) p.returnedKeyMaterialIsNull
  | .sp800108Kdf p => checkSp800108DerivedKeys p.additionalDerivedKeysPresence
  | .sp800108FeedbackKdf p => checkSp800108DerivedKeys p.additionalDerivedKeysPresence
  | _ => .ok ()

def CkMechanismParams.canonicalShapeName {H : Type} : CkMechanismParams H → Option String
  | .rsaPkcsPss _ => some "rsa_pss"
  | .rsaPkcsOaep _ => some "rsa_oaep"
  | .gcm _ => some "gcm"
  | .ecdh1Derive _ => some "ecdh1_derive"
  | .iv _ => some "iv"
  | .rc5 _ => some "rc5"
  | .rc5MacGeneral _ => some "rc5_mac_general"
  | .rc2MacGeneral _ => some "rc2_mac_general"
  | .xeddsa _ => some "xeddsa"
  | .tlsMac _ => some "tls_mac"
  | .aesCtr _ => some "aes_ctr"
  | .camelliaCtr _ => some "camellia_ctr"
  | .rc2Cbc _ => some "rc2_cbc"
  | .rc5Cbc _ => some "rc5_cbc"
  | .aesCbcEncryptData _ => some "aes_cbc_encrypt_data"
  | .desCbcEncryptData _ => some "des_cbc_encrypt_data"
  | .ariaCbcEncryptData _ => some "aria_cbc_encrypt_data"
  | .camelliaCbcEncryptData _ => some "camellia_cbc_encrypt_data"
  | .seedCbcEncryptData _ => some "seed_cbc_encrypt_data"
  | .ccm _ => some "ccm"
  | .chaCha20 _ => some "chacha20"
  | .salsa20 _ => some "salsa20"
  | .salsa20ChaCha20Poly1305 _ => some "salsa20_chacha20_poly1305"
  | .gcmWrap _ => some "gcm_wrap"
  | .ccmWrap _ => some "ccm_wrap"
  | .ecdh2Derive _ => some "ecdh2_derive"
  | .ecmqvDerive _ => some "ecmqv_derive"
  | .x942Dh1Derive _ => some "x942_dh1_derive"
  | .x942Dh2Derive _ => some "x942_dh2_derive"
  | .x942MqvDerive _ => some "x942_mqv_derive"
  | .hkdf _ => some "hkdf"
  | .eddsa _ => some "eddsa"
  | .gostr3410Derive _ => some "gostr3410_derive"
  | .keaDerive _ => some "kea_derive"
  | .ecdhAesKeyWrap _ => some "ecdh_aes_key_wrap"
  | .rsaAesKeyWrap _ => some "rsa_aes_key_wrap"
  | .gostr3410KeyWrap _ => some "gostr3410_key_wrap"
  | .keyWrapSetOaep _ => some "key_wrap_set_oaep"
  | .pbe _ => some "pbe"
  | .pkcs5Pbkd2 _ => some "pkcs5_pbkd2"
  | .tlsPrf _ => some "tls_prf"
  | .tlsKdf _ => some "tls_kdf"
  | .ssl3MasterKeyDerive _ => some "ssl3_master_key_derive"
  | .tls12MasterKeyDerive _ => some "tls12_master_key_derive"
  | .tls12ExtendedMasterKeyDerive _ => some "tls12_extended_master_key_derive"
  | .ssl3KeyMat _ => some "ssl3_key_mat"
  | .wtlsMasterKeyDerive _ => some "wtls_master_key_derive"
  | .wtlsPrf _ => some "wtls_prf"
  | .wtlsKeyMat _ => some "wtls_key_mat"
  | .ikePrfDerive _ => some "ike_prf_derive"
  | .ike1PrfDerive _ => some "ike1_prf_derive"
  | .ike1ExtendedDerive _ => some "ike1_extended_derive"
  | .ike2PrfPlusDerive _ => some "ike2_prf_plus_derive"
  | .sp800108Kdf _ => some "sp800_108_kdf"
  | .sp800108FeedbackKdf _ => some "sp800_108_feedback_kdf"
  | .x3dhInitiate _ => some "x3dh_initiate"
  | .x3dhRespond _ => some "x3dh_respond"
  | .x2RatchetInitialize _ => some "x2ratchet_initialize"
  | .x2RatchetRespond _ => some "x2ratchet_respond"
  | .otp _ => some "otp"
  | .kip _ => some "kip"
  | .cmsSig _ => some "cms_sig"
  | .skipjackPrivateWrap _ => some "skipjack_private_wrap"
  | .skipjackRelayx _ => some "skipjack_relayx"
  | .macGeneral _ => some "mac_general"
  | .objectHandle _ => some "object_handle"
  | .extract _ => some "extract"
  | .signAdditionalContext _ => some "sign_additional_context"
  | .kmac _ => some "kmac"
  | .muGen _ => some "mu_gen"
  | .keyDerivationString _ => some "key_derivation_string"
  | .raw _ | .flat _ | .null _ _ => none
  | .ecies _ => some "ecies"
  | .aesCmacKeyDerivation _ => some "aes_cmac_key_derivation"
  | .dilithium _ => some "dilithium"
  | .kyber _ => some "kyber"
  | .hdKeyDerive _ => some "hd_key_derive"
  | .vendorObjectExtract _ => some "vendor_object_extract"
  | .vendorObjectInsert _ => some "vendor_object_insert"

def typedShapeAuthorized (mechType : UInt64) (variantShape : String) (operation : Operation) : Bool :=
  registry.paramShape mechType = some variantShape ∨
    registry.paramShape mechType = some "gcm_compat" ∧ (variantShape = "iv" ∨ variantShape = "gcm") ∨
    operation = .wrapKey ∧
      (mechType = ShapeResolver.ckmAesGcm ∧ variantShape = "gcm_wrap" ∨ mechType = ShapeResolver.ckmAesCcm ∧ variantShape = "ccm_wrap")

end

-- A value of this type comes out of `validate`; remapping handles changes its
-- mechanism's handles only.
structure ValidatedMechanismParams where
  mechanism : CkMechanism CkObjectHandle
  flatGrant : Option FlatGrant
  registry : MechanismRegistry
  localAbi : ParamAbi
  backendAbi : ParamAbi

section Validate

variable (registry : MechanismRegistry) (operation : Operation) (localAbi backendAbi : ParamAbi)

-- The checks that validation and the sanitizer make of a flat parameter, each in its own
-- words. Comparing the lengths covers the conversion of the byte count to 64 bits.
def classifyFlat (mechType : UInt64) (p : FlatParams) : Except CkRv FlatGrant := do
  checkMemberVersion p.version
  if p.bytes.length = p.declaredLen.toNat then
    match p.sourceAbi with
    | none => throw .mechanismParamInvalid
    | some peerAbi =>
      match decideFlatForRegistry registry mechType operation p.declaredLen p.fingerprint peerAbi localAbi with
      | .eligible grant => return grant
      | .excluded => throw .mechanismInvalid
      | .denied _ => throw .mechanismParamInvalid
  else throw .mechanismParamInvalid

def validateFlat (mechType : UInt64) (p : FlatParams) : Except CkRv FlatGrant := do
  let grant ← classifyFlat registry operation localAbi mechType p
  narrowLenForBackend p.declaredLen backendAbi
  return grant

def validateTyped (mechType : UInt64) (params : CkMechanismParams CkObjectHandle) : Except CkRv Unit := do
  checkTypedPresence params
  if params.canonicalShapeName.any fun shape => typedShapeAuthorized registry mechType shape operation then return ()
  else throw .mechanismParamInvalid

def validateParams (mechType : UInt64) : Option (CkMechanismParams CkObjectHandle) → Except CkRv (Option FlatGrant)
  | none => .ok none
  | some (.raw _) => .error .mechanismParamInvalid
  | some (.null declaredLen version) => do
      checkMemberVersion version
      narrowLenForBackend declaredLen backendAbi
      return none
  | some (.flat p) => do
      let grant ← validateFlat registry operation localAbi backendAbi mechType p
      return some grant
  | some params => do
      validateTyped registry operation mechType params
      return none

def validate (mechanism : CkMechanism CkObjectHandle) : Except CkRv ValidatedMechanismParams :=
  let mechType := mechanism.mechanismType.value
  if mechType ∈ registry.excludedView then .error .mechanismInvalid
  else do
    let flatGrant ← validateParams registry operation localAbi backendAbi mechType mechanism.params
    return { mechanism, flatGrant, registry, localAbi, backendAbi }

theorem validate_ok {mechanism : CkMechanism CkObjectHandle} {validated : ValidatedMechanismParams} :
    validate registry operation localAbi backendAbi mechanism = .ok validated ↔
      mechanism.mechanismType.value ∉ registry.excludedView ∧
        ∃ grant, validateParams registry operation localAbi backendAbi mechanism.mechanismType.value mechanism.params = .ok grant ∧
          validated = ⟨mechanism, grant, registry, localAbi, backendAbi⟩ := by
  rw [validate]
  by_cases excluded : mechanism.mechanismType.value ∈ registry.excludedView
  · simp [excluded]
  · simp only [excluded, if_false, not_false_eq_true, true_and, except_bind_ok]
    exact exists_congr fun grant => and_congr_right fun _ => ⟨fun same => (Except.ok.inj same).symm, fun same => congrArg Except.ok same.symm⟩

theorem classify_flat_ok {mechType : UInt64} {p : FlatParams} {grant : FlatGrant}
    (accepted : classifyFlat registry operation localAbi mechType p = .ok grant) :
    p.bytes.length = p.declaredLen.toNat ∧ ∃ peerAbi, p.sourceAbi = some peerAbi ∧
      decideFlatForRegistry registry mechType operation p.declaredLen p.fingerprint peerAbi localAbi = .eligible grant := by
  rw [classifyFlat, except_bind_ok] at accepted
  obtain ⟨-, -, accepted⟩ := accepted
  split at accepted
  · rename_i sameLength
    refine ⟨sameLength, ?_⟩
    split at accepted
    · cases accepted
    · rename_i peerAbi source
      refine ⟨peerAbi, source, ?_⟩
      split at accepted
      · rename_i granted eligible
        cases accepted
        exact eligible
      · cases accepted
      · cases accepted
  · cases accepted

end Validate

end Pkcs11Proxy.Types
