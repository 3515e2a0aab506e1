import Pkcs11Proxy.Lib.Lines

namespace Pkcs11Proxy.Server

open Lib

abbrev Text := List Char

section Parsing

-- The code points with the White_Space property, as `str::trim` has them.
def isWhitespace (c : Char) : Bool :=
  let n := c.toNat
  (9 ≤ n && n ≤ 13) || n = 0x20 || n = 0x85 || n = 0xA0 || n = 0x1680 || (0x2000 ≤ n && n ≤ 0x200A) ||
    n = 0x2028 || n = 0x2029 || n = 0x202F || n = 0x205F || n = 0x3000

def trimEnd (drop : Char → Bool) (text : Text) : Text := (text.reverse.dropWhile drop).reverse

def trim (text : Text) : Text := trimEnd isWhitespace (text.dropWhile isWhitespace)

def stripLead (lead text : Text) : Option Text := if lead.isPrefixOf text then some (text.drop lead.length) else none

def digitValue (radix : Nat) (c : Char) : Option Nat :=
  let value :=
    if '0' ≤ c ∧ c ≤ '9' then some (c.toNat - '0'.toNat)
    else if 'a' ≤ c ∧ c ≤ 'z' then some (c.toNat - 'a'.toNat + 10)
    else if 'A' ≤ c ∧ c ≤ 'Z' then some (c.toNat - 'A'.toNat + 10)
    else none
  value.filter fun digit => digit < radix

-- `from_str_radix` of an unsigned type: one plus sign may stand in front.
def parseUnsigned (radix limit : Nat) (text : Text) : Option Nat :=
  let digits := match text with
    | '+' :: rest => rest
    | _ => text
  if digits.isEmpty then none
  else
    digits.foldl (fun value c => do
      let value ← value
      let digit ← digitValue radix c
      if value * radix + digit < limit then some (value * radix + digit) else none) (some 0)

def decimal (n : Nat) : Text := Nat.toDigits 10 n

end Parsing

inductive TokenSelector where
  | label (value : Text)
  | serial (value : Text)
deriving DecidableEq, Repr

def isFieldPadding (c : Char) : Bool := c = ' ' || c.toNat = 0

def trimFieldPadding (text : Text) : Text := trimEnd isFieldPadding text

def TokenSelector.parse (selector : Text) : Except String TokenSelector :=
  let trimmed := trimFieldPadding selector
  if trimmed.isEmpty then .error "selector must not be empty"
  else
    match stripLead "label:".toList trimmed with
    | some rest =>
      let value := trimFieldPadding rest
      if value.isEmpty then .error "label: selector value must not be empty" else .ok (.label value)
    | none =>
      match stripLead "serial:".toList trimmed with
      | some rest =>
        let value := trimFieldPadding rest
        if value.isEmpty then .error "serial: selector value must not be empty" else .ok (.serial value)
      | none =>
        if ("pkcs11:".toList).isPrefixOf trimmed then
          .error "pkcs11: URI selectors are not yet supported; use 'label:' or 'serial:'"
        else if trimmed.contains ':' then
          .error ("unrecognized selector prefix '" ++ String.ofList (trimmed.takeWhile fun c => c ≠ ':') ++
            ":' — use 'label:', 'serial:', or 'pkcs11:'")
        else .ok (.label trimmed)

def TokenSelector.matches (selector : TokenSelector) (tokenLabel tokenSerial : Text) : Bool :=
  match selector with
  | .label value => trimFieldPadding value == trimFieldPadding tokenLabel
  | .serial value => trimFieldPadding value == trimFieldPadding tokenSerial

inductive ExtractPolicy where
  | allow
  | deny
deriving DecidableEq, Repr

structure ObjectAcl where
  uniqueId : Bytes
  extract : Option ExtractPolicy
deriving DecidableEq, Repr

-- None of a list is no restriction.
structure TokenGrant where
  selector : TokenSelector
  classes : Option (List UInt64)
  mechanisms : Option (List UInt64)
  extract : ExtractPolicy
  objects : Option (List ObjectAcl)
deriving DecidableEq, Repr

inductive TokenAccess where
  | all
  | specific (grants : List TokenGrant)
deriving DecidableEq, Repr

section Config

inductive ObjectAclSpec where
  | bare (id : Text)
  | rich (id : Text) (extract : Option ExtractPolicy)
deriving DecidableEq, Repr

structure RichGrantConfig where
  token : Text
  classes : Option (List Text)
  mechanisms : Option (List Text)
  extract : ExtractPolicy
  objects : Option (List ObjectAclSpec)
deriving DecidableEq, Repr

inductive GrantSpec where
  | bare (selector : Text)
  | rich (config : RichGrantConfig)
deriving DecidableEq, Repr

inductive TokenAccessSpec where
  | all (keyword : Text)
  | specific (grants : List GrantSpec)
deriving DecidableEq, Repr

structure PolicyEntry where
  identity : Text
  tokens : TokenAccessSpec
deriving DecidableEq, Repr

structure AuthConfig where
  allowAllAuthenticated : Bool
  policy : List PolicyEntry
  anonymousPrincipal : Option Text
deriving DecidableEq, Repr

end Config

def namedClass (name : Text) : Option UInt64 :=
  if name = "data".toList ∨ name = "CKO_DATA".toList then some 0
  else if name = "certificate".toList ∨ name = "CKO_CERTIFICATE".toList then some 1
  else if name = "public_key".toList ∨ name = "CKO_PUBLIC_KEY".toList then some 2
  else if name = "private_key".toList ∨ name = "CKO_PRIVATE_KEY".toList then some 3
  else if name = "secret_key".toList ∨ name = "CKO_SECRET_KEY".toList then some 4
  else if name = "vendor_defined".toList ∨ name = "CKO_VENDOR_DEFINED".toList then some 0x80000000
  else none

def parseClass (text : Text) : Except String UInt64 :=
  let t := trim text
  match namedClass t with
  | some objectClass => .ok objectClass
  | none =>
    match (stripLead "0x".toList t).or (stripLead "0X".toList t) with
    | some hex =>
      match parseUnsigned 16 UInt64.size hex with
      | some n => .ok (UInt64.ofNat n)
      | none => .error ("unknown object class '" ++ String.ofList t ++ "': invalid hex integer; expected e.g. 0x00000003")
    | none =>
      match parseUnsigned 10 UInt64.size t with
      | some n => .ok (UInt64.ofNat n)
      | none =>
        .error ("unknown object class '" ++ String.ofList t ++ "'; expected one of: data, certificate, public_key, " ++
          "private_key, secret_key, vendor_defined (or CKO_* prefix, or a hex/decimal integer)")

-- `hexDecode` is the `hex` crate's decoder.
def parseObjectUniqueId (hexDecode : Text → Except String Bytes) (text : Text) : Except String Bytes :=
  let t := trim text
  if t.isEmpty then
    .error ("invalid objects entry: empty or whitespace string is not a valid CKA_UNIQUE_ID hex value. An empty entry " ++
      "matches nothing yet activates per-object authz, silently denying all objects — refuse-to-start instead. Use a " ++
      "non-empty even-length hex byte string (e.g. \"a1b2c3\").")
  else
    match hexDecode t with
    | .ok bytes => .ok bytes
    | .error e =>
      .error ("invalid objects entry '" ++ String.ofList t ++ "': " ++ e ++ "; expected an even-length hex byte string " ++
        "(e.g. \"a1b2\"); got a string that is not valid hex or has an odd number of digits")

inductive AuthenticatedIdentity where
  | peerCred (uid : UInt32)
  | mtls (issuer subject spkiSha256 : Text)
  | unauthenticated
deriving DecidableEq, Repr

def escapeIdentityComponent (value : Text) : Text :=
  value.flatMap fun c => if c = '\\' then ['\\', '\\'] else if c = ';' then ['\\', ';'] else [c]

def unescapeIdentityComponent : Text → Except String Text
  | [] => .ok []
  | '\\' :: '\\' :: rest => (unescapeIdentityComponent rest).map fun out => '\\' :: out
  | '\\' :: ';' :: rest => (unescapeIdentityComponent rest).map fun out => ';' :: out
  | '\\' :: other :: _ => .error ("invalid escape '\\" ++ other.toString ++ "' in mTLS identity")
  | ['\\'] => .error "trailing escape in mTLS identity"
  | c :: rest => (unescapeIdentityComponent rest).map fun out => c :: out

-- The first semicolon behind an even number of backslashes parts the two halves.
def splitEscapedIdentityBody (before : Text) (backslashes : Nat) : Text → Option (Text × Text)
  | [] => none
  | c :: rest =>
    if c = ';' ∧ backslashes % 2 = 0 then
      (stripLead ";subject=".toList (c :: rest)).map fun subject => (before.reverse, subject)
    else splitEscapedIdentityBody (c :: before) (if c = '\\' then backslashes + 1 else 0) rest

def dnKey (issuer subject : Text) : Text :=
  "x509:issuer=".toList ++ escapeIdentityComponent issuer ++ ";subject=".toList ++ escapeIdentityComponent subject

def spkiKey (spkiSha256 : Text) : Text := "x509:spki=".toList ++ spkiSha256

def AuthenticatedIdentity.legacyDnKey : AuthenticatedIdentity → Option Text
  | .mtls issuer subject _ => if issuer.isEmpty && subject.isEmpty then none else some (dnKey issuer subject)
  | _ => none

def AuthenticatedIdentity.display : AuthenticatedIdentity → Text
  | .peerCred uid => "uid=".toList ++ decimal uid.toNat
  | .mtls issuer subject spkiSha256 =>
    if spkiSha256.isEmpty then dnKey issuer subject
    else if issuer.isEmpty && subject.isEmpty then spkiKey spkiSha256
    else spkiKey spkiSha256 ++ ";issuer=".toList ++ escapeIdentityComponent issuer ++ ";subject=".toList ++
      escapeIdentityComponent subject
  | .unauthenticated => "unauthenticated".toList

def AuthenticatedIdentity.fromStr (value : Text) : Except String AuthenticatedIdentity :=
  if value = "unauthenticated".toList then .ok .unauthenticated
  else
    match stripLead "uid=".toList value with
    | some uid =>
      match parseUnsigned 10 UInt32.size uid with
      | some n => .ok (.peerCred (UInt32.ofNat n))
      | none => .error ("invalid peer credential identity '" ++ String.ofList value ++ "'")
    | none =>
      match stripLead "x509:spki=".toList value with
      | some rest =>
        if rest.contains ';' then
          let invalid := "invalid enriched mTLS identity '" ++ String.ofList value ++ "'"
          match stripLead "issuer=".toList ((rest.dropWhile fun c => c ≠ ';').drop 1) with
          | none => .error invalid
          | some body =>
            match splitEscapedIdentityBody [] 0 body with
            | none => .error invalid
            | some (issuer, subject) => do
                let issuer ← unescapeIdentityComponent issuer
                let subject ← unescapeIdentityComponent subject
                return .mtls issuer subject (rest.takeWhile fun c => c ≠ ';')
        else .ok (.mtls [] [] rest)
      | none =>
        match stripLead "x509:issuer=".toList value with
        | some rest =>
          match splitEscapedIdentityBody [] 0 rest with
          | none => .error ("invalid mTLS identity '" ++ String.ofList value ++ "'")
          | some (issuer, subject) => do
              let issuer ← unescapeIdentityComponent issuer
              let subject ← unescapeIdentityComponent subject
              return .mtls issuer subject []
        | none => .error ("unknown authenticated identity format '" ++ String.ofList value ++ "'")

def normalizePolicyIdentity (identity : Text) : Text :=
  match stripLead "uid=".toList identity with
  | none => identity
  | some uid =>
    match parseUnsigned 10 UInt32.size uid with
    | some n => "uid=".toList ++ decimal n
    | none => identity

-- `rules` lists the map's entries; `from_config` lets no key in twice.
structure TokenPolicy where
  rules : List (Text × TokenAccess)
  allowAllAuthenticated : Bool
  hasPolicy : Bool
  anonymousPrincipal : Option Text
  perObjectActiveCache : Bool
  perClassActiveCache : Bool
  perMechanismActiveCache : Bool

namespace TokenPolicy

def anyGrant (rules : List (Text × TokenAccess)) (listed : TokenGrant → Bool) : Bool :=
  rules.any fun rule =>
    match rule.2 with
    | .specific grants => grants.any listed
    | .all => false

section FromConfig

-- The table of mechanism names, whose results no function modelled here reads, and the
-- decoder of object ids.
variable (parseMechanism : Text → Except String UInt64) (hexDecode : Text → Except String Bytes)

def inPolicy {α : Type} (identity : Text) (parsed : Except String α) : Except String α :=
  parsed.mapError fun e => "policy for '" ++ String.ofList identity ++ "': " ++ e

def parseObjectAcl (identity : Text) : ObjectAclSpec → Except String ObjectAcl
  | .bare id => do
      let uid ← inPolicy identity (parseObjectUniqueId hexDecode id)
      return ⟨uid, none⟩
  | .rich id extract => do
      let uid ← inPolicy identity (parseObjectUniqueId hexDecode id)
      return ⟨uid, extract⟩

def parseGrant (identity : Text) : GrantSpec → Except String TokenGrant
  | .bare text => do
      let selector ← inPolicy identity ((TokenSelector.parse text).mapError fun e =>
        "invalid selector '" ++ String.ofList text ++ "': " ++ e)
      return ⟨selector, none, none, .allow, none⟩
  | .rich config => do
      let selector ← inPolicy identity ((TokenSelector.parse config.token).mapError fun e =>
        "invalid token selector '" ++ String.ofList config.token ++ "': " ++ e)
      let classes ← config.classes.mapM fun names => names.mapM fun name => inPolicy identity (parseClass name)
      let mechanisms ← config.mechanisms.mapM fun names => names.mapM fun name => inPolicy identity (parseMechanism name)
      let objects ← config.objects.mapM fun specs => specs.mapM fun spec => parseObjectAcl hexDecode identity spec
      return ⟨selector, classes, mechanisms, config.extract, objects⟩

def parseAccess (identity : Text) : TokenAccessSpec → Except String TokenAccess
  | .all keyword =>
    let keyword := trim keyword
    if keyword = "all".toList ∨ keyword = "*".toList then .ok .all
    else
      .error ("policy for '" ++ String.ofList identity ++ "': invalid scalar tokens value '" ++ String.ofList keyword ++
        "'; use tokens = \"all\" (or \"*\") for broad access or tokens = [\"label:...\"] for token selectors")
  | .specific specs => do
      let grants ← specs.mapM (parseGrant parseMechanism hexDecode identity)
      return .specific grants

def parseRules (rules : List (Text × TokenAccess)) : List PolicyEntry → Except String (List (Text × TokenAccess))
  | [] => .ok rules
  | entry :: rest => do
      let access ← parseAccess parseMechanism hexDecode entry.identity entry.tokens
      let key := normalizePolicyIdentity entry.identity
      if (rules.lookup key).isSome then
        .error ("duplicate [[auth.policy]] identity '" ++ String.ofList entry.identity ++ "': each identity may appear only " ++
          "once; merge the grants into a single entry")
      else parseRules (rules ++ [(key, access)]) rest

def fromConfig (auth : AuthConfig) : Except String TokenPolicy := do
  let rules ← parseRules parseMechanism hexDecode [] auth.policy
  return {
    rules := rules
    allowAllAuthenticated := auth.allowAllAuthenticated
    hasPolicy := !rules.isEmpty
    anonymousPrincipal := auth.anonymousPrincipal
    perObjectActiveCache := anyGrant rules fun grant => grant.objects.isSome
    perClassActiveCache := anyGrant rules fun grant => grant.classes.isSome
    perMechanismActiveCache := anyGrant rules fun grant => grant.mechanisms.isSome }

end FromConfig

section

variable (policy : TokenPolicy)

def perObjectActive : Bool := policy.perObjectActiveCache

def perClassActive : Bool := policy.perClassActiveCache

def resolveAccess (identity : AuthenticatedIdentity) : Option TokenAccess :=
  match identity with
  | .unauthenticated => none
  | .mtls _ _ spkiSha256 =>
    (if spkiSha256.isEmpty then none else policy.rules.lookup (spkiKey spkiSha256)).or
      (identity.legacyDnKey.bind fun key => policy.rules.lookup key)
  | .peerCred _ => policy.rules.lookup identity.display

variable (identity : AuthenticatedIdentity) (tokenLabel tokenSerial : Text)

def permits (permit : TokenGrant → Bool) : Bool :=
  if identity = .unauthenticated then true
  else if policy.allowAllAuthenticated then true
  else
    match policy.resolveAccess identity with
    | none => true
    | some .all => true
    | some (.specific grants) =>
      let matching := grants.filter fun grant => grant.selector.matches tokenLabel tokenSerial
      if matching.isEmpty then true else matching.any permit

def allowsClass (objectClass : UInt64) : Bool :=
  policy.permits identity tokenLabel tokenSerial fun grant =>
    match grant.classes with
    | none => true
    | some list => list.contains objectClass

def allowsObjectUse (uniqueId : Bytes) : Bool :=
  policy.permits identity tokenLabel tokenSerial fun grant =>
    match grant.objects with
    | none => true
    | some list => list.any fun acl => acl.uniqueId == uniqueId

end

end TokenPolicy

end Pkcs11Proxy.Server
