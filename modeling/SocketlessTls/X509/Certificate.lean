import SocketlessTls.Digest.Sha256
import SocketlessTls.Net.Address
import SocketlessTls.X509.Name

/-!
# Certificates

A certificate is read from its encoding as far as this library looks at it: the two names, the
period of validity, the public key, and the alternative names. Signatures are not checked here.

* `SocketlessTls.X509.Certificate.ofDer?` – reads a certificate; bytes after it are ignored;
* `SocketlessTls.X509.Summary` – what is shown of a certificate.
-/

namespace SocketlessTls.X509

/-- A public key: its algorithm, the algorithm's parameters as encoded, and the key's bits. -/
structure PublicKey where
  algorithm : ObjectId
  parameters : Bytes
  bits : Bytes
  deriving Repr, DecidableEq

/-- An extension: its object, whether it is critical, and its value. -/
structure Extension where
  object : ObjectId
  critical : Bool
  value : Bytes
  deriving Repr, DecidableEq

/-- A certificate. -/
structure Certificate where
  /-- The encoding that it was read from. -/
  der : Bytes
  issuer : Name
  /-- The first moment of validity, as `YYYYMMDDhhmmss…`. -/
  notBefore : String
  /-- The last moment of validity, as `YYYYMMDDhhmmss…`. -/
  notAfter : String
  subject : Name
  publicKey : PublicKey
  extensions : List Extension
  deriving Repr, DecidableEq

/-! ### Reading -/

/-- Reads an algorithm and its parameters. -/
def algorithmOf? (e : Asn1.Element) : Option (ObjectId × Bytes) := do
  match ← e.members? .sequence with
  | [object] => return (← object.object?, [])
  | [object, parameters] => return (← object.object?, parameters.raw)
  | _ => none

/-- Reads a moment; a two-digit year lies between 1950 and 2049. -/
def momentOf? (e : Asn1.Element) : Option String := do
  match e.primitive? .generalizedTime with
  | some bs => if bs.length < 15 then none else Text.utf8? bs
  | none =>
    let bs ← e.primitive? .utcTime
    if bs.length < 13 then none
    else
      let text ← Text.utf8? bs
      return (if bs.headD 0 ≥ 53 then "19" else "20") ++ text

/-- Reads a public key. -/
def PublicKey.ofElement? (e : Asn1.Element) : Option PublicKey := do
  match ← e.members? .sequence with
  | [algorithm, bits] =>
    let (object, parameters) ← algorithmOf? algorithm
    return ⟨object, parameters, ← bits.bits?⟩
  | _ => none

/-- Reads an extension. -/
def Extension.ofElement? (e : Asn1.Element) : Option Extension := do
  match ← e.members? .sequence with
  | [object, value] => return ⟨← object.object?, false, ← value.primitive? .octetString⟩
  | [object, critical, value] =>
    match ← critical.primitive? .boolean with
    | [b] => return ⟨← object.object?, b != 0, ← value.primitive? .octetString⟩
    | _ => none
  | _ => none

/-- Reads the optional extensions. -/
def extensionsOf? : Option Asn1.Element → Option (List Extension)
  | none => some []
  | some e => do
    let inner ← e.member? (.context 3)
    (← inner.members? .sequence).mapM Extension.ofElement?

/-- Reads the two moments of a period of validity. -/
def validityOf? (e : Asn1.Element) : Option (String × String) := do
  match ← e.members? .sequence with
  | [notBefore, notAfter] => return (← momentOf? notBefore, ← momentOf? notAfter)
  | _ => none

open Asn1 in
/-- Reads the signed part of a certificate whose encoding is `der`. -/
def signedPart (der : Bytes) : Fields Certificate := do
  if let some version ← Fields.optional (.context 0) then
    let inner ← Fields.lift (version.member? (.context 0))
    let _ ← Fields.lift (inner.integer? .integer)
  let _ ← Fields.lift ((← Fields.next).integer? .integer)
  let _ ← Fields.lift (algorithmOf? (← Fields.next))
  let issuer ← Fields.lift (Name.ofElement? (← Fields.next))
  let (notBefore, notAfter) ← Fields.lift (validityOf? (← Fields.next))
  let subject ← Fields.lift (Name.ofElement? (← Fields.next))
  let publicKey ← Fields.lift (PublicKey.ofElement? (← Fields.next))
  for number in [1, 2] do
    if let some unique ← Fields.optional (.context number) then
      let _ ← Fields.lift (unique.primitive? (.context number) >>= bitsOfContent?)
  let extensions ← Fields.lift (extensionsOf? (← Fields.optional (.context 3)))
  return ⟨der, issuer, notBefore, notAfter, subject, publicKey, extensions⟩

/-- Reads the certificate at the front of a byte string. -/
def Certificate.ofDer? (bs : Bytes) : Option Certificate := do
  let (outer, _) ← Asn1.readElement? bs
  match ← outer.members? .sequence with
  | [signed, algorithm, signature] =>
    let _ ← algorithmOf? algorithm
    let _ ← signature.bits?
    (signedPart outer.raw).run? (← signed.members? .sequence)
  | _ => none

/-- The encoding of the subject, as it stands in the certificate. -/
def Certificate.subjectDer? (c : Certificate) : Option Bytes := do
  let (outer, _) ← Asn1.readElement? c.der
  let signed ← (← outer.members? .sequence).head?
  let members ← signed.members? .sequence
  let fields := members.dropWhile (·.tag = .context 0)
  return (← fields[4]?).raw

/-! ### Alternative names -/

/-- An alternative name, as far as it is shown. -/
inductive AltName where
  | dns (bytes : Bytes)
  | ip (bytes : Bytes)
  /-- A kind of name that is not shown. -/
  | other
  deriving Repr, DecidableEq

/-- Reads an alternative name. -/
def AltName.ofElement? (e : Asn1.Element) : Option AltName :=
  match e.tag with
  | .context 0 => do
    match ← e.members? (.context 0) with
    | [object, value] =>
      let _ ← object.object?
      let _ ← value.member? (.context 0)
      return .other
    | _ => none
  | .context 1 | .context 6 => (e.primitive? e.tag).map fun _ => .other
  | .context 2 => (e.primitive? e.tag).map .dns
  | .context 3 | .context 5 => (e.members? e.tag).map fun _ => .other
  | .context 4 => do
    let _ ← Name.ofElement? (← e.member? (.context 4))
    return .other
  | .context 7 => (e.primitive? e.tag).map .ip
  | .context 8 => (e.primitive? e.tag >>= Asn1.objectOfContent?).map fun _ => .other
  | _ => none

/-- The text of an alternative name; a name that is not text, an address of another size and any
other kind have none. -/
def AltName.text? : AltName → Option String
  | .dns bytes => (Text.utf8? bytes).map ("DNS:" ++ ·)
  | .ip bytes => (Net.Address.ofBytes? bytes).map fun a => "IP:" ++ a.text
  | .other => none

/-- The alternative names of a certificate: none if the extension is missing, appears twice or
does not read. -/
def Certificate.altNames (c : Certificate) : List AltName :=
  match c.extensions.filter (·.object = ObjectId.subjectAltName) with
  | [x] =>
    match Asn1.readElement? x.value with
    | some (e, _) => ((e.members? .sequence) >>= (·.mapM AltName.ofElement?)).getD []
    | none => []
  | _ => []

/-- The texts of the alternative names that have one, in order. -/
def altNameTexts (names : List AltName) : List String := names.filterMap AltName.text?

/-! ### What is shown of a certificate -/

/-- A certificate in summary. -/
structure Summary where
  subject : String
  issuer : String
  altNames : List String
  sha256 : String
  deriving Repr, DecidableEq

/-- The common names, the alternative names, and the digest of the encoding. -/
def Certificate.summary (c : Certificate) : Summary where
  subject := c.subject.commonName
  issuer := c.issuer.commonName
  altNames := altNameTexts c.altNames
  sha256 := (Digest.Sha256.digest c.der).toHex

end SocketlessTls.X509
