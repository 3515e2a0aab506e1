import Pkcs11Proxy.Server.TokenPolicy

namespace Pkcs11Proxy.Server

theorem strip_lead_append (lead rest : Text) : stripLead lead (lead ++ rest) = some rest := by
  simp [stripLead]

section Decimal

def readDigit (limit : Nat) (value : Option Nat) (c : Char) : Option Nat := do
  let value ← value
  let digit ← digitValue 10 c
  if value * 10 + digit < limit then some (value * 10 + digit) else none

theorem digit_value_decimal {c : Char} (digit : c.isDigit = true) : digitValue 10 c = some (c.toNat - '0'.toNat) := by
  have bounds := Char.isDigit_iff_toNat.mp digit
  have inside : '0' ≤ c ∧ c ≤ '9' := bounds
  have small : c.toNat - '0'.toNat < 10 := by
    have nine : '9'.toNat = '0'.toNat + 9 := rfl
    omega
  rw [digitValue, if_pos inside, Option.filter_some, if_pos (decide_eq_true small)]

theorem read_digits (limit : Nat) (digits : Text) (value : Nat) (numeral : ∀ c ∈ digits, c.isDigit = true)
    (fits : Nat.ofDigitChars 10 digits value < limit) :
    digits.foldl (readDigit limit) (some value) = some (Nat.ofDigitChars 10 digits value) := by
  induction digits generalizing value with
  | nil => rfl
  | cons c rest ih =>
    have grows : 10 * value + (c.toNat - '0'.toNat) ≤ Nat.ofDigitChars 10 rest (10 * value + (c.toNat - '0'.toNat)) := by
      rw [Nat.ofDigitChars_eq_ofDigitChars_zero]
      exact Nat.le_add_right_of_le (Nat.le_mul_of_pos_left _ (Nat.pow_pos (by decide)))
    have read : readDigit limit (some value) c = some (10 * value + (c.toNat - '0'.toNat)) := by
      simp only [readDigit, digit_value_decimal (numeral c List.mem_cons_self), Option.bind_eq_bind, Option.bind_some, Nat.mul_comm value]
      exact if_pos (Nat.lt_of_le_of_lt grows fits)
    rw [List.foldl_cons, read]
    exact ih _ (fun other member => numeral other (List.mem_cons_of_mem c member)) fits

theorem parse_decimal {limit n : Nat} (fits : n < limit) : parseUnsigned 10 limit (decimal n) = some n := by
  have numeral : ∀ c ∈ decimal n, c.isDigit = true := fun c => Nat.isDigit_of_mem_toDigits (by decide) (by decide)
  have value : Nat.ofDigitChars 10 (decimal n) 0 = n := Nat.ofDigitChars_ten_toDigits
  have read := read_digits limit (decimal n) 0 numeral (by rwa [value])
  rw [value] at read
  cases spelled : decimal n with
  | nil => exact absurd spelled Nat.toDigits_ne_nil
  | cons c rest =>
    rw [spelled] at read numeral
    have unsigned : c ≠ '+' := fun plus => by
      have digit := numeral c List.mem_cons_self
      rw [plus] at digit
      exact absurd digit (by decide)
    rw [parseUnsigned]
    · exact read
    · intro tail same
      exact unsigned (List.cons.inj same).1

end Decimal

section Escaping

theorem escape_cons (c : Char) (rest : Text) :
    escapeIdentityComponent (c :: rest) =
      (if c = '\\' then ['\\', '\\'] else if c = ';' then ['\\', ';'] else [c]) ++ escapeIdentityComponent rest := by
  rfl

theorem unescape_escape (value : Text) : unescapeIdentityComponent (escapeIdentityComponent value) = .ok value := by
  induction value with
  | nil => rfl
  | cons c rest ih =>
    rw [escape_cons]
    by_cases slash : c = '\\'
    · subst slash
      rw [if_pos rfl, List.cons_append, List.cons_append, unescapeIdentityComponent, List.nil_append, ih]
      rfl
    · by_cases semicolon : c = ';'
      · subst semicolon
        rw [if_neg slash, if_pos rfl, List.cons_append, List.cons_append, unescapeIdentityComponent, List.nil_append, ih]
        rfl
      · rw [if_neg slash, if_neg semicolon, List.cons_append, List.nil_append, unescapeIdentityComponent, ih]
        · rfl
        all_goals simp_all

-- An escaped half has no semicolon behind an even run of backslashes, so the search goes
-- through it and stops at the separator.
theorem split_escaped (value subject before : Text) (backslashes : Nat) (even : backslashes % 2 = 0) :
    splitEscapedIdentityBody before backslashes (escapeIdentityComponent value ++ ";subject=".toList ++ subject) =
      some (before.reverse ++ escapeIdentityComponent value, subject) := by
  induction value generalizing before backslashes with
  | nil =>
    have stripped := strip_lead_append ";subject=".toList subject
    change splitEscapedIdentityBody before backslashes (";subject=".toList ++ subject) = some (before.reverse ++ [], subject)
    rw [List.append_nil]
    change (if ';' = ';' ∧ backslashes % 2 = 0 then (stripLead ";subject=".toList (";subject=".toList ++ subject)).map _ else _) = _
    rw [if_pos ⟨rfl, even⟩, stripped]
    rfl
  | cons c rest ih =>
    rw [escape_cons]
    by_cases slash : c = '\\'
    · subst slash
      simp only [if_true, List.cons_append, List.nil_append, splitEscapedIdentityBody, false_and, if_false,
        show ('\\' : Char) ≠ ';' by decide]
      rw [ih _ _ (by omega)]
      simp
    · by_cases semicolon : c = ';'
      · subst semicolon
        have odd : (backslashes + 1) % 2 ≠ 0 := by omega
        simp only [if_neg slash, if_true, List.cons_append, List.nil_append, splitEscapedIdentityBody, false_and, if_false,
          show ('\\' : Char) ≠ ';' by decide, odd, and_false]
        rw [ih _ _ rfl]
        simp
      · simp only [if_neg slash, List.cons_append, List.nil_append, splitEscapedIdentityBody, semicolon, false_and,
          if_false]
        rw [ih _ _ rfl]
        simp

theorem split_dn_body (issuer subject : Text) :
    splitEscapedIdentityBody [] 0 (escapeIdentityComponent issuer ++ ";subject=".toList ++ escapeIdentityComponent subject) =
      some (escapeIdentityComponent issuer, escapeIdentityComponent subject) :=
  split_escaped issuer _ [] 0 rfl

end Escaping

namespace AuthenticatedIdentity

def fingerprint : AuthenticatedIdentity → Text
  | .mtls _ _ spkiSha256 => spkiSha256
  | _ => []

theorem from_dn_key {issuer subject : Text} : fromStr (dnKey issuer subject) = .ok (.mtls issuer subject []) := by
  have body : dnKey issuer subject =
      "x509:issuer=".toList ++ (escapeIdentityComponent issuer ++ ";subject=".toList ++ escapeIdentityComponent subject) := rfl
  have notUid : ∀ rest, stripLead "uid=".toList ("x509:issuer=".toList ++ rest) = none := fun _ => rfl
  have notSpki : ∀ rest, stripLead "x509:spki=".toList ("x509:issuer=".toList ++ rest) = none := fun _ => rfl
  rw [body, fromStr, if_neg (by simp), notUid]
  rw [notSpki, strip_lead_append]
  dsimp only
  rw [split_dn_body]
  dsimp only
  rw [unescape_escape, unescape_escape]
  rfl

theorem from_spki_body (rest : Text) :
    fromStr ("x509:spki=".toList ++ rest) =
      if rest.contains ';' then
        match stripLead "issuer=".toList ((rest.dropWhile fun c => c ≠ ';').drop 1) with
        | none => .error ("invalid enriched mTLS identity '" ++ String.ofList ("x509:spki=".toList ++ rest) ++ "'")
        | some body =>
          match splitEscapedIdentityBody [] 0 body with
          | none => .error ("invalid enriched mTLS identity '" ++ String.ofList ("x509:spki=".toList ++ rest) ++ "'")
          | some (issuer, subject) => do
            let issuer ← unescapeIdentityComponent issuer
            let subject ← unescapeIdentityComponent subject
            return .mtls issuer subject (rest.takeWhile fun c => c ≠ ';')
      else .ok (.mtls [] [] rest) := by
  have notUid : stripLead "uid=".toList ("x509:spki=".toList ++ rest) = none := rfl
  have led := strip_lead_append "x509:spki=".toList rest
  rw [fromStr, if_neg (by simp), notUid]
  generalize stripLead "x509:spki=".toList ("x509:spki=".toList ++ rest) = stripped at led ⊢
  subst led
  rfl

theorem from_enriched {issuer subject spki : Text} (plain : ';' ∉ spki) :
    fromStr (spkiKey spki ++ ";issuer=".toList ++ escapeIdentityComponent issuer ++ ";subject=".toList ++ escapeIdentityComponent subject) =
      .ok (.mtls issuer subject spki) := by
  have inside : ∀ c ∈ spki, decide (c ≠ ';') = true := fun c member => decide_eq_true fun same => plain (same ▸ member)
  have named : ∀ rest, ((spki ++ ';' :: rest).takeWhile fun c => decide (c ≠ ';')) = spki := fun rest => by
    rw [List.takeWhile_append_of_pos inside, List.takeWhile_cons_of_neg (by simp), List.append_nil]
  have body : ∀ rest, ((spki ++ ';' :: rest).dropWhile fun c => decide (c ≠ ';')).drop 1 = rest := fun rest => by
    rw [List.dropWhile_append_of_pos inside, List.dropWhile_cons_of_neg (by simp), List.drop_one, List.tail_cons]
  have shape : spkiKey spki ++ ";issuer=".toList ++ escapeIdentityComponent issuer ++ ";subject=".toList ++ escapeIdentityComponent subject =
      "x509:spki=".toList ++ (spki ++ ';' :: ("issuer=".toList ++
        (escapeIdentityComponent issuer ++ ";subject=".toList ++ escapeIdentityComponent subject))) := by
    have separator : ";issuer=".toList = ';' :: "issuer=".toList := rfl
    unfold spkiKey
    rw [separator, List.append_assoc, List.append_assoc, List.append_assoc, List.append_assoc, List.cons_append,
      List.append_assoc]
  rw [shape, from_spki_body, if_pos (by simp), named, body, strip_lead_append]
  dsimp only
  rw [split_dn_body]
  dsimp only
  rw [unescape_escape, unescape_escape]
  rfl

theorem from_spki_key (spki : Text) (plain : ';' ∉ spki) : fromStr (spkiKey spki) = .ok (.mtls [] [] spki) :=
  (from_spki_body spki).trans (if_neg (by simpa using plain))

theorem from_uid (uid : UInt32) : fromStr ("uid=".toList ++ decimal uid.toNat) = .ok (.peerCred uid) := by
  rw [fromStr, if_neg (by simp), strip_lead_append]
  dsimp only
  rw [parse_decimal uid.toNat_lt_size]
  dsimp only
  rw [UInt32.ofNat_toNat]

theorem from_display (identity : AuthenticatedIdentity) (plain : ';' ∉ identity.fingerprint) : fromStr identity.display = .ok identity := by
  cases identity with
  | peerCred uid => exact from_uid uid
  | unauthenticated =>
    change fromStr "unauthenticated".toList = _
    rw [fromStr, if_pos rfl]
  | mtls issuer subject spki =>
    change fromStr (if spki.isEmpty then dnKey issuer subject else if issuer.isEmpty && subject.isEmpty then spkiKey spki else _) = _
    split
    · rename_i empty
      rw [List.isEmpty_iff.mp empty]
      exact from_dn_key
    · split
      · rename_i anonymous
        obtain ⟨noIssuer, noSubject⟩ := Bool.and_eq_true_iff.mp anonymous
        rw [List.isEmpty_iff.mp noIssuer, List.isEmpty_iff.mp noSubject]
        exact from_spki_key spki plain
      · exact from_enriched plain

end AuthenticatedIdentity

theorem identity_encoding_round_trips (identity : AuthenticatedIdentity) (plain : ';' ∉ identity.fingerprint) :
    AuthenticatedIdentity.fromStr identity.display = .ok identity ∧
      (∀ other : AuthenticatedIdentity, ';' ∉ other.fingerprint → other.display = identity.display → other = identity) ∧
      ∀ issuer subject spkiSha256, identity = .mtls issuer subject spkiSha256 → issuer ≠ [] ∨ subject ≠ [] →
        identity.legacyDnKey = some (AuthenticatedIdentity.mtls issuer subject []).display := by
  refine ⟨identity.from_display plain, fun other otherPlain same => ?_, ?_⟩
  · have read := other.from_display otherPlain
    rw [same, identity.from_display plain] at read
    exact (Except.ok.inj read).symm
  · rintro issuer subject spkiSha256 rfl named
    have named : ¬ (issuer.isEmpty && subject.isEmpty) = true := by
      rw [Bool.and_eq_true, List.isEmpty_iff, List.isEmpty_iff]
      exact not_and_or.mpr named
    rw [AuthenticatedIdentity.legacyDnKey, if_neg named]
    rfl

theorem identity_encoding_round_trips_separator :
    AuthenticatedIdentity.fromStr (AuthenticatedIdentity.mtls "CN=a\\;subject=CN=b".toList "CN=c".toList "ab".toList).display =
      .ok (AuthenticatedIdentity.mtls "CN=a\\;subject=CN=b".toList "CN=c".toList "ab".toList) :=
  (identity_encoding_round_trips (.mtls _ _ "ab".toList) (by decide)).1

end Pkcs11Proxy.Server
