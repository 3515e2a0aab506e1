import Pkcs11Proxy.Types.Attribute
import Pkcs11Proxy.Types.Layout

namespace Pkcs11Proxy.Types

open Lib

structure CkObjectHandle where
  value : UInt64
deriving DecidableEq

structure CkMechanismType where
  value : UInt64
deriving DecidableEq

structure CkMgf where
  value : UInt64
deriving DecidableEq

structure CkGeneratorFunction where
  value : UInt64
deriving DecidableEq

structure CkKdf where
  value : UInt64
deriving DecidableEq

structure CkOaepSource where
  value : UInt64
deriving DecidableEq

structure CkPbkdf2SaltSource where
  value : UInt64
deriving DecidableEq

structure CkPbkdf2Prf where
  value : UInt64
deriving DecidableEq

-- A pointer member: the bytes behind it, or NULL with the length the caller declared.
inductive PointerBytes where
  | present (bytes : Bytes)
  | null (declaredLen : UInt64)
deriving DecidableEq

def PointerBytes.asPresent : PointerBytes → Option Bytes
  | .present bytes => some bytes
  | .null _ => none

inductive PointerArray (T : Type) where
  | present (items : List T)
  | null (declaredCount : UInt64)

def PointerArray.asPresent {T : Type} : PointerArray T → Option (List T)
  | .present items => some items
  | .null _ => none

-- The structs are generic in the type `H` of the object handles they are given: a map
-- from one handle type to another cannot leave a handle out.
structure RsaPkcsPssParams where
  hashAlg : CkMechanismType
  mgf : CkMgf
  saltLen : UInt64

structure RsaPkcsOaepParams where
  hashAlg : CkMechanismType
  mgf : CkMgf
  source : CkOaepSource
  sourceDataPresence : PointerBytes

structure GcmParams where
  ivBits : UInt64
  ivBufferLen : UInt64
  tagBits : UInt64
  ivPresence : PointerBytes
  aadPresence : PointerBytes

structure Ecdh1DeriveParams where
  kdf : CkKdf
  sharedDataPresence : PointerBytes
  publicDataPresence : PointerBytes

structure IvParams where
  iv : Bytes

structure Rc5Params where
  wordSize : UInt64
  rounds : UInt64

structure Rc5MacGeneralParams where
  wordSize : UInt64
  rounds : UInt64
  macLength : UInt64

structure Rc2MacGeneralParams where
  effectiveBits : UInt64
  macLength : UInt64

structure XeddsaParams where
  hash : CkMechanismType

structure TlsMacParams where
  prfHashMechanism : CkMechanismType
  macLength : UInt64
  serverOrClient : UInt64

structure AesCtrParams where
  counterBits : UInt64
  cb : Bytes

structure CamelliaCtrParams where
  counterBits : UInt64
  cb : Bytes

structure Rc2CbcParams where
  effectiveBits : UInt64
  iv : Bytes

structure Rc5CbcParams where
  wordSize : UInt64
  rounds : UInt64
  ivPresence : PointerBytes

structure AesCbcEncryptDataParams where
  iv : Bytes
  dataPresence : PointerBytes

structure DesCbcEncryptDataParams where
  iv : Bytes
  dataPresence : PointerBytes

structure AriaCbcEncryptDataParams where
  iv : Bytes
  dataPresence : PointerBytes

structure CamelliaCbcEncryptDataParams where
  iv : Bytes
  dataPresence : PointerBytes

structure SeedCbcEncryptDataParams where
  iv : Bytes
  dataPresence : PointerBytes

structure CcmParams where
  dataLen : UInt64
  macLen : UInt64
  noncePresence : PointerBytes
  aadPresence : PointerBytes

structure ChaCha20Params where
  blockCounterBits : UInt64
  nonceBits : UInt64
  blockCounterPresence : PointerBytes
  noncePresence : PointerBytes

structure Salsa20Params where
  nonceBits : UInt64
  blockCounterPresence : PointerBytes
  noncePresence : PointerBytes

structure Salsa20ChaCha20Poly1305Params where
  noncePresence : PointerBytes
  aadPresence : PointerBytes

structure GcmWrapParams where
  ivFixedBits : UInt64
  ivGenerator : CkGeneratorFunction
  tagBits : UInt64
  ivPresence : PointerBytes
  aadPresence : PointerBytes

structure CcmWrapParams where
  dataLen : UInt64
  nonceFixedBits : UInt64
  nonceGenerator : CkGeneratorFunction
  macLen : UInt64
  noncePresence : PointerBytes
  aadPresence : PointerBytes

section

variable (H : Type)

structure Ecdh2DeriveParams where
  kdf : CkKdf
  privateDataLen : UInt64
  privateDataHandle : H
  sharedDataPresence : PointerBytes
  publicDataPresence : PointerBytes
  publicData2Presence : PointerBytes

structure EcmqvDeriveParams where
  kdf : CkKdf
  privateDataLen : UInt64
  privateDataHandle : H
  publicKeyHandle : H
  sharedDataPresence : PointerBytes
  publicDataPresence : PointerBytes
  publicData2Presence : PointerBytes

structure X942Dh1DeriveParams where
  kdf : CkKdf
  otherInfoPresence : PointerBytes
  publicDataPresence : PointerBytes

structure X942Dh2DeriveParams where
  kdf : CkKdf
  privateDataLen : UInt64
  privateDataHandle : H
  otherInfoPresence : PointerBytes
  publicDataPresence : PointerBytes
  publicData2Presence : PointerBytes

structure X942MqvDeriveParams where
  kdf : CkKdf
  privateDataLen : UInt64
  privateDataHandle : H
  publicKeyHandle : H
  otherInfoPresence : PointerBytes
  publicDataPresence : PointerBytes
  publicData2Presence : PointerBytes

structure HkdfParams where
  extract : Bool
  expand : Bool
  prfHashMechanism : CkMechanismType
  saltType : UInt64
  saltKeyHandle : H
  saltPresence : PointerBytes
  infoPresence : PointerBytes

structure EddsaParams where
  phFlag : Bool
  contextDataPresence : PointerBytes

structure Gostr3410DeriveParams where
  kdf : CkKdf
  publicDataPresence : PointerBytes
  ukmPresence : PointerBytes

structure KeaDeriveParams where
  isSender : Bool
  randomAPresence : PointerBytes
  randomBPresence : PointerBytes
  publicDataPresence : PointerBytes

structure EcdhAesKeyWrapParams where
  aesKeyBits : UInt64
  kdf : CkKdf
  sharedDataPresence : PointerBytes

structure RsaAesKeyWrapParams where
  aesKeyBits : UInt64
  oaepParams : RsaPkcsOaepParams

structure Gostr3410KeyWrapParams where
  keyHandle : H
  wrapOidPresence : PointerBytes
  ukmPresence : PointerBytes

structure KeyWrapSetOaepParams where
  bc : UInt32
  xPresence : PointerBytes

structure PbeParams where
  iteration : UInt64
  initVectorPresence : PointerBytes
  passwordPresence : PointerBytes
  saltPresence : PointerBytes

structure Pkcs5Pbkd2Params where
  saltSource : CkPbkdf2SaltSource
  iterations : UInt64
  prf : CkPbkdf2Prf
  saltSourceDataPresence : PointerBytes
  prfDataPresence : PointerBytes
  passwordPresence : PointerBytes

structure SslRandomData where
  clientRandomPresence : PointerBytes
  serverRandomPresence : PointerBytes

structure TlsPrfParams where
  outputLen : UInt64
  output : Bytes
  seedPresence : PointerBytes
  labelPresence : PointerBytes
  outputIsNull : Bool
  outputLenIsNull : Bool

structure TlsKdfParams where
  prfMechanism : CkMechanismType
  randomInfo : SslRandomData
  labelPresence : PointerBytes
  contextDataPresence : PointerBytes

structure Ssl3MasterKeyDeriveParams where
  randomInfo : SslRandomData
  versionMajor : UInt32
  versionMinor : UInt32
  versionIsNull : Bool

structure Tls12MasterKeyDeriveParams where
  randomInfo : SslRandomData
  versionMajor : UInt32
  versionMinor : UInt32
  prfHashMechanism : CkMechanismType
  versionIsNull : Bool

structure Tls12ExtendedMasterKeyDeriveParams where
  prfHashMechanism : CkMechanismType
  versionMajor : UInt32
  versionMinor : UInt32
  sessionHashPresence : PointerBytes
  versionIsNull : Bool

structure Ssl3KeyMatParams where
  macSizeBits : UInt64
  keySizeBits : UInt64
  ivSizeBits : UInt64
  isExport : Bool
  randomInfo : SslRandomData
  prfHashMechanism : CkMechanismType
  clientMacSecretHandle : H
  serverMacSecretHandle : H
  clientKeyHandle : H
  serverKeyHandle : H
  clientIvPresence : PointerBytes
  serverIvPresence : PointerBytes
  returnedKeyMaterialIsNull : Bool

structure WtlsRandomData where
  clientRandomPresence : PointerBytes
  serverRandomPresence : PointerBytes

structure WtlsMasterKeyDeriveParams where
  digestMechanism : CkMechanismType
  randomInfo : WtlsRandomData
  version : UInt32
  versionIsNull : Bool

structure WtlsPrfParams where
  digestMechanism : CkMechanismType
  outputLen : UInt64
  output : Bytes
  seedPresence : PointerBytes
  labelPresence : PointerBytes
  outputIsNull : Bool
  outputLenIsNull : Bool

structure WtlsKeyMatParams where
  digestMechanism : CkMechanismType
  macSizeBits : UInt64
  keySizeBits : UInt64
  ivSizeBits : UInt64
  sequenceNumber : UInt64
  isExport : Bool
  randomInfo : WtlsRandomData
  macSecretHandle : H
  keyHandle : H
  ivPresence : PointerBytes
  returnedKeyMaterialIsNull : Bool

structure IkePrfDeriveParams where
  prfMechanism : CkMechanismType
  dataAsKey : Bool
  rekey : Bool
  newKeyHandle : H
  niPresence : PointerBytes
  nrPresence : PointerBytes

structure Ike1PrfDeriveParams where
  prfMechanism : CkMechanismType
  hasPrevKey : Bool
  keygxyHandle : H
  prevKeyHandle : H
  keyNumber : UInt32
  ckyiPresence : PointerBytes
  ckyrPresence : PointerBytes

structure Ike1ExtendedDeriveParams where
  prfMechanism : CkMechanismType
  hasKeygxy : Bool
  keygxyHandle : H
  extraDataPresence : PointerBytes

structure Ike2PrfPlusDeriveParams where
  prfMechanism : CkMechanismType
  hasSeedKey : Bool
  seedKeyHandle : H
  seedDataPresence : PointerBytes

structure PrfDataParam where
  dataType : UInt64
  valuePresence : PointerBytes

-- The handle of a derived key is an output of the call, so it is no `H`.
structure Sp800108DerivedKey where
  keyHandle : CkObjectHandle
  templatePresence : PointerArray CkAttribute
  phKeyIsNull : Bool

structure Sp800108KdfParams where
  prfType : CkMechanismType
  dataParamsPresence : PointerArray PrfDataParam
  additionalDerivedKeysPresence : PointerArray Sp800108DerivedKey

structure Sp800108FeedbackKdfParams where
  prfType : CkMechanismType
  dataParamsPresence : PointerArray PrfDataParam
  ivPresence : PointerBytes
  additionalDerivedKeysPresence : PointerArray Sp800108DerivedKey

structure X3dhInitiateParams where
  kdf : UInt64
  peerIdentityHandle : H
  peerPrekeyHandle : H
  prekeySignature : Bytes
  onetimeKeyHandle : H
  ownIdentityHandle : H
  ownEphemeralHandle : H

structure X3dhRespondParams where
  kdf : UInt64
  identityHandle : H
  prekeyHandle : H
  onetimeKeyHandle : H
  initiatorIdentityHandle : H
  initiatorEphemeralHandle : H

structure X2RatchetInitializeParams where
  sk : Bytes
  peerPublicPrekeyHandle : H
  peerPublicIdentityHandle : H
  ownPublicIdentityHandle : H
  encryptedHeader : Bool
  curve : UInt64
  aeadMechanism : CkMechanismType
  kdfMechanism : CkKdf

structure X2RatchetRespondParams where
  sk : Bytes
  ownPrekeyHandle : H
  initiatorIdentityHandle : H
  ownIdentityHandle : H
  encryptedHeader : Bool
  curve : UInt64
  aeadMechanism : CkMechanismType
  kdfMechanism : CkKdf

structure OtpParam where
  dataType : UInt64
  valuePresence : PointerBytes

structure OtpParams where
  paramsPresence : PointerArray OtpParam

structure SkipjackPrivateWrapParams where
  passwordLength : UInt64
  passwordPresence : PointerBytes
  publicDataPresence : PointerBytes
  randomAPresence : PointerBytes
  primePPresence : PointerBytes
  baseGPresence : PointerBytes
  subprimeQPresence : PointerBytes

structure SkipjackRelayxParams where
  oldWrappedXPresence : PointerBytes
  oldPasswordPresence : PointerBytes
  oldPublicDataPresence : PointerBytes
  oldRandomAPresence : PointerBytes
  newPasswordPresence : PointerBytes
  newPublicDataPresence : PointerBytes
  newRandomAPresence : PointerBytes

structure MacGeneralParams where
  macLength : UInt64

structure ObjectHandleParam where
  handle : H

structure ExtractParams where
  bitPosition : UInt64

structure KeyDerivationStringData where
  dataPresence : PointerBytes

structure SignAdditionalContext where
  hedgeVariant : UInt64
  hash : CkMechanismType
  contextPresence : PointerBytes

structure KmacParams where
  keyHandle : H
  macLength : UInt64
  customizationStringPresence : PointerBytes

structure MuGenParams where
  keyHandle : H
  trPresence : PointerBytes
  contextPresence : PointerBytes

structure RawMechanismParams where
  data : Bytes

structure FlatParams where
  bytes : Bytes
  declaredLen : UInt64
  sourceAbi : Option ParamAbi
  fingerprint : UInt64
  version : UInt32

structure AesCmacKeyDerivationParams where
  context : Bytes
  label : Bytes

structure DilithiumParams where
  version : UInt64
  mode : UInt64

structure KyberParams where
  version : UInt64
  mode : UInt64
  secretHandle : H
  sharedData : Bytes
  blob : Bytes

structure HdKeyDeriveParams where
  deriveType : UInt64
  childKeyIndex : UInt64
  chainCode : Bytes
  version : UInt64

structure VendorObjectExtractParams where
  format : UInt64
  context : Bytes

structure VendorObjectInsertParams where
  format : UInt64
  context : Bytes
  objectData : Bytes

end

mutual

structure CkMechanism (H : Type) where
  mechanismType : CkMechanismType
  params : Option (CkMechanismParams H)

structure KipParams (H : Type) where
  mechanism : Option (CkMechanism H)
  keyHandle : H
  seedPresence : PointerBytes

structure CmsSigParams (H : Type) where
  certificateHandle : H
  signingMechanism : CkMechanism H
  digestMechanism : CkMechanism H
  contentType : String
  requestedAttributes : Bytes
  requiredAttributes : Bytes

structure EciesParams (H : Type) where
  derivationMechanism : CkMechanism H
  encryptionMechanism : CkMechanism H
  macMechanism : CkMechanism H
  sharedData : Bytes

inductive CkMechanismParams (H : Type) where
  | rsaPkcsPss (p : RsaPkcsPssParams)
  | rsaPkcsOaep (p : RsaPkcsOaepParams)
  | gcm (p : GcmParams)
  | ecdh1Derive (p : Ecdh1DeriveParams)
  | iv (p : IvParams)
  | rc5 (p : Rc5Params)
  | rc5MacGeneral (p : Rc5MacGeneralParams)
  | rc2MacGeneral (p : Rc2MacGeneralParams)
  | xeddsa (p : XeddsaParams)
  | tlsMac (p : TlsMacParams)
  | aesCtr (p : AesCtrParams)
  | camelliaCtr (p : CamelliaCtrParams)
  | rc2Cbc (p : Rc2CbcParams)
  | rc5Cbc (p : Rc5CbcParams)
  | aesCbcEncryptData (p : AesCbcEncryptDataParams)
  | desCbcEncryptData (p : DesCbcEncryptDataParams)
  | ariaCbcEncryptData (p : AriaCbcEncryptDataParams)
  | camelliaCbcEncryptData (p : CamelliaCbcEncryptDataParams)
  | seedCbcEncryptData (p : SeedCbcEncryptDataParams)
  | ccm (p : CcmParams)
  | chaCha20 (p : ChaCha20Params)
  | salsa20 (p : Salsa20Params)
  | salsa20ChaCha20Poly1305 (p : Salsa20ChaCha20Poly1305Params)
  | gcmWrap (p : GcmWrapParams)
  | ccmWrap (p : CcmWrapParams)
  | ecdh2Derive (p : Ecdh2DeriveParams H)
  | ecmqvDerive (p : EcmqvDeriveParams H)
  | x942Dh1Derive (p : X942Dh1DeriveParams)
  | x942Dh2Derive (p : X942Dh2DeriveParams H)
  | x942MqvDerive (p : X942MqvDeriveParams H)
  | hkdf (p : HkdfParams H)
  | eddsa (p : EddsaParams)
  | gostr3410Derive (p : Gostr3410DeriveParams)
  | keaDerive (p : KeaDeriveParams)
  | ecdhAesKeyWrap (p : EcdhAesKeyWrapParams)
  | rsaAesKeyWrap (p : RsaAesKeyWrapParams)
  | gostr3410KeyWrap (p : Gostr3410KeyWrapParams H)
  | keyWrapSetOaep (p : KeyWrapSetOaepParams)
  | pbe (p : PbeParams)
  | pkcs5Pbkd2 (p : Pkcs5Pbkd2Params)
  | tlsPrf (p : TlsPrfParams)
  | tlsKdf (p : TlsKdfParams)
  | ssl3MasterKeyDerive (p : Ssl3MasterKeyDeriveParams)
  | tls12MasterKeyDerive (p : Tls12MasterKeyDeriveParams)
  | tls12ExtendedMasterKeyDerive (p : Tls12ExtendedMasterKeyDeriveParams)
  | ssl3KeyMat (p : Ssl3KeyMatParams H)
  | wtlsMasterKeyDerive (p : WtlsMasterKeyDeriveParams)
  | wtlsPrf (p : WtlsPrfParams)
  | wtlsKeyMat (p : WtlsKeyMatParams H)
  | ikePrfDerive (p : IkePrfDeriveParams H)
  | ike1PrfDerive (p : Ike1PrfDeriveParams H)
  | ike1ExtendedDerive (p : Ike1ExtendedDeriveParams H)
  | ike2PrfPlusDerive (p : Ike2PrfPlusDeriveParams H)
  | sp800108Kdf (p : Sp800108KdfParams)
  | sp800108FeedbackKdf (p : Sp800108FeedbackKdfParams)
  | x3dhInitiate (p : X3dhInitiateParams H)
  | x3dhRespond (p : X3dhRespondParams H)
  | x2RatchetInitialize (p : X2RatchetInitializeParams H)
  | x2RatchetRespond (p : X2RatchetRespondParams H)
  | otp (p : OtpParams)
  | kip (p : KipParams H)
  | cmsSig (p : CmsSigParams H)
  | skipjackPrivateWrap (p : SkipjackPrivateWrapParams)
  | skipjackRelayx (p : SkipjackRelayxParams)
  | macGeneral (p : MacGeneralParams)
  | objectHandle (p : ObjectHandleParam H)
  | extract (p : ExtractParams)
  | signAdditionalContext (p : SignAdditionalContext)
  | kmac (p : KmacParams H)
  | muGen (p : MuGenParams H)
  | keyDerivationString (p : KeyDerivationStringData)
  | raw (p : RawMechanismParams)
  | flat (p : FlatParams)
  | null (declaredLen : UInt64) (version : UInt32)
  | ecies (p : EciesParams H)
  | aesCmacKeyDerivation (p : AesCmacKeyDerivationParams)
  | dilithium (p : DilithiumParams)
  | kyber (p : KyberParams H)
  | hdKeyDerive (p : HdKeyDeriveParams)
  | vendorObjectExtract (p : VendorObjectExtractParams)
  | vendorObjectInsert (p : VendorObjectInsertParams)

end

end Pkcs11Proxy.Types
