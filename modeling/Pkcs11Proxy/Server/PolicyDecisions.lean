import Pkcs11Proxy.Server.AttributeReads

namespace Pkcs11Proxy.Server

open Lib

namespace TokenPolicy

section Decisions

variable (policy : TokenPolicy) (identity : AuthenticatedIdentity) (tokenLabel tokenSerial : Text)

def allowsUnauthenticated : Bool := !policy.hasPolicy || policy.anonymousPrincipal.isSome

def perMechanismActive : Bool := policy.perMechanismActiveCache

def checkAccess (access : TokenAccess) : Bool :=
  match access with
  | .all => true
  | .specific grants => grants.any fun grant => grant.selector.matches tokenLabel tokenSerial

-- The log-once sets of `allows` decide nothing.
def allows : Bool :=
  if identity = .unauthenticated then policy.allowsUnauthenticated
  else if policy.allowAllAuthenticated then true
  else
    match identity with
    | .mtls _ _ spkiSha256 =>
      match if spkiSha256.isEmpty then none else policy.rules.lookup (spkiKey spkiSha256) with
      | some access => checkAccess tokenLabel tokenSerial access
      | none =>
        match identity.legacyDnKey.bind fun key => policy.rules.lookup key with
        | some access => checkAccess tokenLabel tokenSerial access
        | none => false
    | _ =>
      match policy.rules.lookup identity.display with
      | some .all => true
      | some (.specific grants) => grants.any fun grant => grant.selector.matches tokenLabel tokenSerial
      | none => false

def allowsMechanism (mechanism : UInt64) : Bool :=
  policy.permits identity tokenLabel tokenSerial fun grant =>
    match grant.mechanisms with
    | none => true
    | some list => list.contains mechanism

end Decisions

section Agreement

variable {policy : TokenPolicy} {identity : AuthenticatedIdentity} {tokenLabel tokenSerial : Text}

theorem resolve_access_listed {access : TokenAccess} (resolved : policy.resolveAccess identity = some access) :
    ∃ key, (key, access) ∈ policy.rules := by
  have listed : ∀ key, policy.rules.lookup key = some access → ∃ key, (key, access) ∈ policy.rules := fun key found => by
    obtain ⟨before, after, rules, -⟩ := List.lookup_eq_some_iff.mp found
    exact ⟨key, rules ▸ List.mem_append_right before List.mem_cons_self⟩
  cases identity with
  | unauthenticated => cases resolved
  | peerCred uid => exact listed _ resolved
  | mtls issuer subject spki =>
    rcases Option.or_eq_some_iff.mp resolved with bySpki | ⟨-, byDn⟩
    · split at bySpki
      · cases bySpki
      · exact listed _ bySpki
    · obtain ⟨key, -, found⟩ := Option.bind_eq_some_iff.mp byDn
      exact listed key found

theorem permits_unlisted {listed permit : TokenGrant → Bool} (inactive : anyGrant policy.rules listed = false)
    (unlisted : ∀ grant, listed grant = false → permit grant = true) : policy.permits identity tokenLabel tokenSerial permit = true := by
  rw [permits]
  split
  · rfl
  · split
    · rfl
    · split
      · rfl
      · rfl
      · rename_i grants resolved
        obtain ⟨key, rule⟩ := resolve_access_listed resolved
        have none : grants.any listed = false := Bool.eq_false_iff.mpr (List.any_eq_false.mp inactive _ rule)
        dsimp only
        split
        · rfl
        · rename_i some
          obtain ⟨grant, member⟩ := List.exists_mem_of_ne_nil _ (fun empty => some (List.isEmpty_iff.mpr empty))
          have kept := List.any_eq_false.mp none grant (List.mem_filter.mp member).1
          exact List.any_eq_true.mpr ⟨grant, member, unlisted grant (Bool.eq_false_iff.mpr kept)⟩

theorem allows_resolved (authenticated : identity ≠ .unauthenticated) (restricted : policy.allowAllAuthenticated = false) :
    policy.allows identity tokenLabel tokenSerial = (policy.resolveAccess identity).any (checkAccess tokenLabel tokenSerial) := by
  have reached : ∀ anonymous decision : Bool,
      (if identity = .unauthenticated then anonymous else if policy.allowAllAuthenticated then true else decision) = decision := fun _ _ => by
    rw [if_neg authenticated, restricted, if_neg Bool.false_ne_true]
  cases identity with
  | unauthenticated => exact absurd rfl authenticated
  | peerCred uid =>
    refine (reached _ _).trans ?_
    change _ = Option.any _ (policy.rules.lookup (AuthenticatedIdentity.peerCred uid).display)
    rcases policy.rules.lookup (AuthenticatedIdentity.peerCred uid).display with _ | _ | _ <;> rfl
  | mtls issuer subject spki =>
    refine (reached _ _).trans ?_
    rw [resolveAccess]
    dsimp only
    rcases (if spki.isEmpty then none else policy.rules.lookup (spkiKey spki)) with _ | access
    · rcases (AuthenticatedIdentity.mtls issuer subject spki).legacyDnKey.bind fun key => policy.rules.lookup key with _ | access <;> rfl
    · rfl

variable {grants : List TokenGrant}

theorem override_listed (uniqueId : Bytes) (verdict : ExtractPolicy) :
    (grants.flatMap fun grant =>
      ((grant.objects.getD []).filter fun acl => acl.uniqueId == uniqueId).map ObjectAcl.extract).contains (some verdict) = true ↔
      ∃ grant ∈ grants, ∃ acl ∈ grant.objects.getD [], acl.uniqueId = uniqueId ∧ acl.extract = some verdict := by
  simp [and_assoc]

theorem extract_without_override (plain : policy.hasObjectExtractOverride identity tokenLabel tokenSerial = false) (uniqueId : Bytes) :
    policy.extractAllowedForObject identity tokenLabel tokenSerial uniqueId = policy.extractAllowed identity tokenLabel tokenSerial := by
  have unlisted := fun verdict => (override_listed uniqueId verdict).not.mpr (by
    rintro ⟨grant, member, acl, entry, -, overridden⟩
    refine List.any_eq_false.mp (List.any_eq_false.mp plain grant member |> Bool.eq_false_iff.mpr) acl entry ?_
    rw [overridden]
    rfl)
  exact (if_neg (unlisted .deny)).trans (if_neg (unlisted .allow))

theorem extract_denied {grant : TokenGrant} {acl : ObjectAcl} {uniqueId : Bytes} (restricted : policy.allowAllAuthenticated = false)
    (resolved : policy.resolveAccess identity = some (.specific grants)) (member : grant ∈ grants)
    (onToken : grant.selector.matches tokenLabel tokenSerial = true) (entry : acl ∈ grant.objects.getD []) (named : acl.uniqueId = uniqueId)
    (denied : acl.extract = some .deny) : policy.extractAllowedForObject identity tokenLabel tokenSerial uniqueId = false := by
  have authenticated : identity ≠ .unauthenticated := fun anonymous => by
    rw [anonymous] at resolved
    cases resolved
  have inside : grant ∈ policy.grantsOn identity tokenLabel tokenSerial := by
    rw [grantsOn, if_neg authenticated, restricted, if_neg Bool.false_ne_true, resolved]
    exact List.mem_filter.mpr ⟨member, onToken⟩
  exact if_pos ((override_listed uniqueId .deny).mpr ⟨grant, inside, acl, entry, named, denied⟩)

end Agreement

end TokenPolicy

def TokenGrant.Lists (grant : TokenGrant) (tokenLabel tokenSerial : Text) (uniqueId : Bytes) (verdict : ExtractPolicy) : Prop :=
  grant.selector.matches tokenLabel tokenSerial = true ∧
    ∃ list, grant.objects = some list ∧ ∃ acl ∈ list, acl.uniqueId = uniqueId ∧ acl.extract = some verdict

theorem policy_fast_paths_agree (parseMechanism : Text → Except String UInt64) (hexDecode : Text → Except String Bytes) (auth : AuthConfig)
    (policy : TokenPolicy) (built : TokenPolicy.fromConfig parseMechanism hexDecode auth = .ok policy) (identity : AuthenticatedIdentity)
    (tokenLabel tokenSerial : Text) :
    (policy.perObjectActive = false → ∀ uniqueId, policy.allowsObjectUse identity tokenLabel tokenSerial uniqueId = true) ∧
    (policy.perClassActive = false → ∀ objectClass, policy.allowsClass identity tokenLabel tokenSerial objectClass = true) ∧
    (policy.perMechanismActive = false → ∀ mechanism, policy.allowsMechanism identity tokenLabel tokenSerial mechanism = true) ∧
    (policy.hasObjectExtractOverride identity tokenLabel tokenSerial = false → ∀ uniqueId,
      policy.extractAllowedForObject identity tokenLabel tokenSerial uniqueId = policy.extractAllowed identity tokenLabel tokenSerial) ∧
    (policy.allowAllAuthenticated = false →
      (identity ≠ .unauthenticated →
        (policy.allows identity tokenLabel tokenSerial = true ↔
          policy.resolveAccess identity = some .all ∨
            ∃ grants, policy.resolveAccess identity = some (.specific grants) ∧
              ∃ grant ∈ grants, grant.selector.matches tokenLabel tokenSerial = true)) ∧
      ∀ grants uniqueId, policy.resolveAccess identity = some (.specific grants) →
        (∃ grant ∈ grants, grant.Lists tokenLabel tokenSerial uniqueId .deny) →
        policy.extractAllowedForObject identity tokenLabel tokenSerial uniqueId = false) := by
  obtain ⟨rules, -, rfl⟩ : ∃ rules, TokenPolicy.parseRules parseMechanism hexDecode [] auth.policy = .ok rules ∧ _ = policy := by
    rw [TokenPolicy.fromConfig] at built
    cases parsed : TokenPolicy.parseRules parseMechanism hexDecode [] auth.policy with
    | error e =>
      rw [parsed] at built
      cases built
    | ok rules =>
      rw [parsed] at built
      exact ⟨rules, rfl, Except.ok.inj built⟩
  refine ⟨fun inactive uniqueId => TokenPolicy.permits_unlisted inactive ?_, fun inactive objectClass => TokenPolicy.permits_unlisted inactive ?_,
    fun inactive mechanism => TokenPolicy.permits_unlisted inactive ?_, TokenPolicy.extract_without_override, fun restricted =>
      ⟨fun authenticated => ?_, ?_⟩⟩
  · intro grant unlisted
    rw [Option.isSome_eq_false_iff, Option.isNone_iff_eq_none] at unlisted
    simp [unlisted]
  · intro grant unlisted
    rw [Option.isSome_eq_false_iff, Option.isNone_iff_eq_none] at unlisted
    simp [unlisted]
  · intro grant unlisted
    rw [Option.isSome_eq_false_iff, Option.isNone_iff_eq_none] at unlisted
    simp [unlisted]
  · rw [TokenPolicy.allows_resolved authenticated restricted]
    rcases TokenPolicy.resolveAccess _ identity with _ | _ | grants
    · simp
    · simp [TokenPolicy.checkAccess]
    · simp [TokenPolicy.checkAccess]
  · rintro grants uniqueId resolved ⟨grant, member, onToken, list, listed, acl, entry, named, denied⟩
    refine TokenPolicy.extract_denied restricted resolved member onToken ?_ named denied
    rw [listed]
    exact entry

def guardedObject (allowAllAuthenticated : Bool) : AuthConfig where
  allowAllAuthenticated := allowAllAuthenticated
  policy := [⟨"uid=7".toList, .specific [.rich ⟨"label:t".toList, none, none, .allow, some [.rich "a1".toList (some .deny)]⟩]⟩]
  anonymousPrincipal := none

def guardedRules : List (Text × TokenAccess) :=
  [("uid=7".toList, .specific [⟨.label "t".toList, none, none, .allow, some [⟨[0xa1], some .deny⟩]⟩])]

def guardedId (text : Text) : Except String Bytes := if text = "a1".toList then .ok [0xa1] else .error ""

theorem guarded_object_parses {allowAll : Bool} :
    TokenPolicy.fromConfig (fun _ => .error "") guardedId (guardedObject allowAll) =
      .ok ⟨guardedRules, allowAll, true, none, true, false, false⟩ := by
  rfl

theorem policy_fast_paths_agree_guarded :
    TokenPolicy.extractAllowedForObject ⟨guardedRules, false, true, none, true, false, false⟩ (.peerCred 7) "t".toList [] [0xa1] = false := by
  have agree := policy_fast_paths_agree _ _ (guardedObject false) _ guarded_object_parses (.peerCred 7) "t".toList []
  exact (agree.2.2.2.2 rfl).2 _ [0xa1] rfl ⟨_, List.mem_singleton_self _, rfl, _, rfl, _, List.mem_singleton_self _, rfl, rfl⟩

-- With `allow_all_authenticated` the grants are not consulted.
theorem allow_all_skips_object_deny :
    ∃ auth policy grants, TokenPolicy.fromConfig (fun _ => .error "") guardedId auth = .ok policy ∧
      policy.resolveAccess (.peerCred 7) = some (.specific grants) ∧ (∃ grant ∈ grants, grant.Lists "t".toList [] [0xa1] .deny) ∧
      policy.extractAllowedForObject (.peerCred 7) "t".toList [] [0xa1] = true :=
  ⟨guardedObject true, _, _, guarded_object_parses, rfl,
    ⟨_, List.mem_singleton_self _, rfl, _, rfl, _, List.mem_singleton_self _, rfl, rfl⟩, rfl⟩

end Pkcs11Proxy.Server
