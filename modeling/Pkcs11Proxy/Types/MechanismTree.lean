import Pkcs11Proxy.Types.Mechanism

namespace Pkcs11Proxy.Types

section

variable {H K : Type}

def CkMechanismParams.subMechanisms : CkMechanismParams H → List (CkMechanism H)
  | .kip p => p.mechanism.toList
  | .cmsSig p => [p.signingMechanism, p.digestMechanism]
  | .ecies p => [p.derivationMechanism, p.encryptionMechanism, p.macMechanism]
  | _ => []

theorem sub_params_size {params : CkMechanismParams H} {sub : CkMechanism H} (member : sub ∈ params.subMechanisms)
    {inner : CkMechanismParams H} (held : sub.params = some inner) : sizeOf inner < sizeOf params := by
  obtain ⟨mechanismType, subParams⟩ := sub
  cases held
  cases params with
  | kip p =>
    obtain ⟨mechanism, keyHandle, seedPresence⟩ := p
    cases Option.mem_toList.mp member
    simp +arith
  | cmsSig p =>
    obtain ⟨certificate, signing, digest, contentType, requested, required⟩ := p
    simp only [CkMechanismParams.subMechanisms, List.mem_cons, List.not_mem_nil, or_false] at member
    rcases member with rfl | rfl <;> simp +arith
  | ecies p =>
    obtain ⟨derivation, encryption, mac, sharedData⟩ := p
    simp only [CkMechanismParams.subMechanisms, List.mem_cons, List.not_mem_nil, or_false] at member
    rcases member with rfl | rfl | rfl <;> simp +arith
  | _ => cases member

-- Induction over the nesting: `P` speaks of parameters, `Q` of the mechanisms that hold
-- them.
theorem nesting_induction {P : CkMechanismParams H → Prop} {Q : CkMechanism H → Prop} (bare : ∀ mechanismType, Q ⟨mechanismType, none⟩)
    (holding : ∀ mechanismType params, P params → Q ⟨mechanismType, some params⟩)
    (node : ∀ params, (∀ sub ∈ params.subMechanisms, Q sub) → P params) (params : CkMechanismParams H) : P params := by
  apply node
  intro sub member
  obtain ⟨mechanismType, held⟩ := sub
  cases held with
  | none => exact bare mechanismType
  | some inner =>
    have smaller := sub_params_size member rfl
    exact holding mechanismType inner (nesting_induction bare holding node inner)
termination_by sizeOf params

mutual

def CkMechanismParams.handles : CkMechanismParams H → List H
  | .ecdh2Derive p => [p.privateDataHandle]
  | .ecmqvDerive p => [p.privateDataHandle, p.publicKeyHandle]
  | .x942Dh2Derive p => [p.privateDataHandle]
  | .x942MqvDerive p => [p.privateDataHandle, p.publicKeyHandle]
  | .hkdf p => [p.saltKeyHandle]
  | .gostr3410KeyWrap p => [p.keyHandle]
  | .ssl3KeyMat p => [p.clientMacSecretHandle, p.serverMacSecretHandle, p.clientKeyHandle, p.serverKeyHandle]
  | .wtlsKeyMat p => [p.macSecretHandle, p.keyHandle]
  | .ikePrfDerive p => [p.newKeyHandle]
  | .ike1PrfDerive p => [p.keygxyHandle, p.prevKeyHandle]
  | .ike1ExtendedDerive p => [p.keygxyHandle]
  | .ike2PrfPlusDerive p => [p.seedKeyHandle]
  | .x3dhInitiate p =>
    [p.peerIdentityHandle, p.peerPrekeyHandle, p.onetimeKeyHandle, p.ownIdentityHandle, p.ownEphemeralHandle]
  | .x3dhRespond p =>
    [p.identityHandle, p.prekeyHandle, p.onetimeKeyHandle, p.initiatorIdentityHandle, p.initiatorEphemeralHandle]
  | .x2RatchetInitialize p => [p.peerPublicPrekeyHandle, p.peerPublicIdentityHandle, p.ownPublicIdentityHandle]
  | .x2RatchetRespond p => [p.ownPrekeyHandle, p.initiatorIdentityHandle, p.ownIdentityHandle]
  | .kip ⟨none, keyHandle, _⟩ => [keyHandle]
  | .kip ⟨some mechanism, keyHandle, _⟩ => keyHandle :: mechanism.handles
  | .cmsSig ⟨certificateHandle, signing, digest, _, _, _⟩ => certificateHandle :: (signing.handles ++ digest.handles)
  | .objectHandle p => [p.handle]
  | .kmac p => [p.keyHandle]
  | .muGen p => [p.keyHandle]
  | .ecies ⟨derivation, encryption, mac, _⟩ => derivation.handles ++ (encryption.handles ++ mac.handles)
  | .kyber p => [p.secretHandle]
  | _ => []

def CkMechanism.handles : CkMechanism H → List H
  | ⟨_, none⟩ => []
  | ⟨_, some params⟩ => params.handles

end

mutual

def CkMechanismParams.mapHandles (f : H → K) : CkMechanismParams H → CkMechanismParams K
  | .rsaPkcsPss p => .rsaPkcsPss p
  | .rsaPkcsOaep p => .rsaPkcsOaep p
  | .gcm p => .gcm p
  | .ecdh1Derive p => .ecdh1Derive p
  | .iv p => .iv p
  | .rc5 p => .rc5 p
  | .rc5MacGeneral p => .rc5MacGeneral p
  | .rc2MacGeneral p => .rc2MacGeneral p
  | .xeddsa p => .xeddsa p
  | .tlsMac p => .tlsMac p
  | .aesCtr p => .aesCtr p
  | .camelliaCtr p => .camelliaCtr p
  | .rc2Cbc p => .rc2Cbc p
  | .rc5Cbc p => .rc5Cbc p
  | .aesCbcEncryptData p => .aesCbcEncryptData p
  | .desCbcEncryptData p => .desCbcEncryptData p
  | .ariaCbcEncryptData p => .ariaCbcEncryptData p
  | .camelliaCbcEncryptData p => .camelliaCbcEncryptData p
  | .seedCbcEncryptData p => .seedCbcEncryptData p
  | .ccm p => .ccm p
  | .chaCha20 p => .chaCha20 p
  | .salsa20 p => .salsa20 p
  | .salsa20ChaCha20Poly1305 p => .salsa20ChaCha20Poly1305 p
  | .gcmWrap p => .gcmWrap p
  | .ccmWrap p => .ccmWrap p
  | .ecdh2Derive p => .ecdh2Derive { p with privateDataHandle := f p.privateDataHandle }
  | .ecmqvDerive p => .ecmqvDerive { p with privateDataHandle := f p.privateDataHandle, publicKeyHandle := f p.publicKeyHandle }
  | .x942Dh1Derive p => .x942Dh1Derive p
  | .x942Dh2Derive p => .x942Dh2Derive { p with privateDataHandle := f p.privateDataHandle }
  | .x942MqvDerive p =>
    .x942MqvDerive { p with
      privateDataHandle := f p.privateDataHandle
      publicKeyHandle := f p.publicKeyHandle }
  | .hkdf p => .hkdf { p with saltKeyHandle := f p.saltKeyHandle }
  | .eddsa p => .eddsa p
  | .gostr3410Derive p => .gostr3410Derive p
  | .keaDerive p => .keaDerive p
  | .ecdhAesKeyWrap p => .ecdhAesKeyWrap p
  | .rsaAesKeyWrap p => .rsaAesKeyWrap p
  | .gostr3410KeyWrap p => .gostr3410KeyWrap { p with keyHandle := f p.keyHandle }
  | .keyWrapSetOaep p => .keyWrapSetOaep p
  | .pbe p => .pbe p
  | .pkcs5Pbkd2 p => .pkcs5Pbkd2 p
  | .tlsPrf p => .tlsPrf p
  | .tlsKdf p => .tlsKdf p
  | .ssl3MasterKeyDerive p => .ssl3MasterKeyDerive p
  | .tls12MasterKeyDerive p => .tls12MasterKeyDerive p
  | .tls12ExtendedMasterKeyDerive p => .tls12ExtendedMasterKeyDerive p
  | .ssl3KeyMat p =>
    .ssl3KeyMat { p with
      clientMacSecretHandle := f p.clientMacSecretHandle
      serverMacSecretHandle := f p.serverMacSecretHandle
      clientKeyHandle := f p.clientKeyHandle
      serverKeyHandle := f p.serverKeyHandle }
  | .wtlsMasterKeyDerive p => .wtlsMasterKeyDerive p
  | .wtlsPrf p => .wtlsPrf p
  | .wtlsKeyMat p => .wtlsKeyMat { p with macSecretHandle := f p.macSecretHandle, keyHandle := f p.keyHandle }
  | .ikePrfDerive p => .ikePrfDerive { p with newKeyHandle := f p.newKeyHandle }
  | .ike1PrfDerive p => .ike1PrfDerive { p with keygxyHandle := f p.keygxyHandle, prevKeyHandle := f p.prevKeyHandle }
  | .ike1ExtendedDerive p => .ike1ExtendedDerive { p with keygxyHandle := f p.keygxyHandle }
  | .ike2PrfPlusDerive p => .ike2PrfPlusDerive { p with seedKeyHandle := f p.seedKeyHandle }
  | .sp800108Kdf p => .sp800108Kdf p
  | .sp800108FeedbackKdf p => .sp800108FeedbackKdf p
  | .x3dhInitiate p =>
    .x3dhInitiate { p with
      peerIdentityHandle := f p.peerIdentityHandle
      peerPrekeyHandle := f p.peerPrekeyHandle
      onetimeKeyHandle := f p.onetimeKeyHandle
      ownIdentityHandle := f p.ownIdentityHandle
      ownEphemeralHandle := f p.ownEphemeralHandle }
  | .x3dhRespond p =>
    .x3dhRespond { p with
      identityHandle := f p.identityHandle
      prekeyHandle := f p.prekeyHandle
      onetimeKeyHandle := f p.onetimeKeyHandle
      initiatorIdentityHandle := f p.initiatorIdentityHandle
      initiatorEphemeralHandle := f p.initiatorEphemeralHandle }
  | .x2RatchetInitialize p =>
    .x2RatchetInitialize { p with
      peerPublicPrekeyHandle := f p.peerPublicPrekeyHandle
      peerPublicIdentityHandle := f p.peerPublicIdentityHandle
      ownPublicIdentityHandle := f p.ownPublicIdentityHandle }
  | .x2RatchetRespond p =>
    .x2RatchetRespond { p with
      ownPrekeyHandle := f p.ownPrekeyHandle
      initiatorIdentityHandle := f p.initiatorIdentityHandle
      ownIdentityHandle := f p.ownIdentityHandle }
  | .otp p => .otp p
  | .kip ⟨none, keyHandle, seedPresence⟩ => .kip ⟨none, f keyHandle, seedPresence⟩
  | .kip ⟨some mechanism, keyHandle, seedPresence⟩ => .kip ⟨some (mechanism.mapHandles f), f keyHandle, seedPresence⟩
  | .cmsSig ⟨certificateHandle, signing, digest, contentType, requested, required⟩ =>
    .cmsSig ⟨f certificateHandle, signing.mapHandles f, digest.mapHandles f, contentType, requested, required⟩
  | .skipjackPrivateWrap p => .skipjackPrivateWrap p
  | .skipjackRelayx p => .skipjackRelayx p
  | .macGeneral p => .macGeneral p
  | .objectHandle p => .objectHandle { p with handle := f p.handle }
  | .extract p => .extract p
  | .signAdditionalContext p => .signAdditionalContext p
  | .kmac p => .kmac { p with keyHandle := f p.keyHandle }
  | .muGen p => .muGen { p with keyHandle := f p.keyHandle }
  | .keyDerivationString p => .keyDerivationString p
  | .raw p => .raw p
  | .flat p => .flat p
  | .null declaredLen version => .null declaredLen version
  | .ecies ⟨derivation, encryption, mac, sharedData⟩ =>
    .ecies ⟨derivation.mapHandles f, encryption.mapHandles f, mac.mapHandles f, sharedData⟩
  | .aesCmacKeyDerivation p => .aesCmacKeyDerivation p
  | .dilithium p => .dilithium p
  | .kyber p => .kyber { p with secretHandle := f p.secretHandle }
  | .hdKeyDerive p => .hdKeyDerive p
  | .vendorObjectExtract p => .vendorObjectExtract p
  | .vendorObjectInsert p => .vendorObjectInsert p

def CkMechanism.mapHandles (f : H → K) : CkMechanism H → CkMechanism K
  | ⟨mechanismType, none⟩ => ⟨mechanismType, none⟩
  | ⟨mechanismType, some params⟩ => ⟨mechanismType, some (params.mapHandles f)⟩

end

theorem map_handles_id (params : CkMechanismParams H) : params.mapHandles id = params := by
  induction params using nesting_induction (Q := fun mechanism => mechanism.mapHandles id = mechanism) with
  | bare mechanismType => rfl
  | holding mechanismType params ih => rw [CkMechanism.mapHandles, ih]
  | node params subs =>
    cases params with
    | kip p =>
      obtain ⟨mechanism, keyHandle, seedPresence⟩ := p
      cases mechanism with
      | none => rfl
      | some mechanism => rw [CkMechanismParams.mapHandles, subs mechanism (.head _), id]
    | cmsSig p =>
      obtain ⟨certificate, signing, digest, contentType, requested, required⟩ := p
      rw [CkMechanismParams.mapHandles, subs signing (.head _), subs digest (.tail _ (.head _)), id]
    | ecies p =>
      obtain ⟨derivation, encryption, mac, sharedData⟩ := p
      rw [CkMechanismParams.mapHandles, subs derivation (.head _), subs encryption (.tail _ (.head _)),
        subs mac (.tail _ (.tail _ (.head _)))]
    | _ => rfl

theorem map_handles_congr (f g : H → K) (params : CkMechanismParams H) :
    params.mapHandles f = params.mapHandles g ↔ ∀ handle ∈ params.handles, f handle = g handle := by
  induction params using nesting_induction (Q := fun mechanism =>
    mechanism.mapHandles f = mechanism.mapHandles g ↔ ∀ handle ∈ mechanism.handles, f handle = g handle) with
  | bare mechanismType => simp [CkMechanism.mapHandles, CkMechanism.handles]
  | holding mechanismType params ih => simp [CkMechanism.mapHandles, CkMechanism.handles, ih]
  | node params subs =>
    cases params with
    | kip p =>
      obtain ⟨mechanism, keyHandle, seedPresence⟩ := p
      cases mechanism with
      | none => simp [CkMechanismParams.mapHandles, CkMechanismParams.handles]
      | some mechanism =>
        simp [CkMechanismParams.mapHandles, CkMechanismParams.handles, subs mechanism (.head _), and_comm]
    | cmsSig p =>
      obtain ⟨certificate, signing, digest, contentType, requested, required⟩ := p
      simp [CkMechanismParams.mapHandles, CkMechanismParams.handles, subs signing (.head _), subs digest (.tail _ (.head _)),
        or_imp, forall_and]
    | ecies p =>
      obtain ⟨derivation, encryption, mac, sharedData⟩ := p
      simp [CkMechanismParams.mapHandles, CkMechanismParams.handles, subs derivation (.head _),
        subs encryption (.tail _ (.head _)), subs mac (.tail _ (.tail _ (.head _))), or_imp, forall_and]
    | _ => simp [CkMechanismParams.mapHandles, CkMechanismParams.handles]

end

end Pkcs11Proxy.Types
