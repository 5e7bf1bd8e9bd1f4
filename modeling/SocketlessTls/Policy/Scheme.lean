import SocketlessTls.Policy.CipherText
import SocketlessTls.X509.PrivateKey

/-!
# Signature schemes

How the side that holds a certificate signs a handshake: a kind of key, a digest, and the number
that the pair has on the wire. A list of schemes as text is a row of scheme names and of pairs
`kind+digest`; each of its parts must be known, unless a question mark before it forgives.
-/

namespace SocketlessTls.Policy

/-- A digest. -/
inductive DigestKind where
  | sha1 | sha224 | sha256 | sha384 | sha512
  /-- The two old digests side by side, before TLS 1.2. -/
  | md5Sha1
  deriving Repr, DecidableEq

/-- The name of a digest. -/
def DigestKind.name : DigestKind → String
  | sha1 => "SHA1" | sha224 => "SHA224" | sha256 => "SHA256" | sha384 => "SHA384"
  | sha512 => "SHA512" | md5Sha1 => "MD5-SHA1"

/-- The bits of security of a digest as part of a signature. -/
def DigestKind.bits : DigestKind → Nat
  | sha1 => 64 | sha224 => 112 | sha256 => 128 | sha384 => 192 | sha512 => 256 | md5Sha1 => 67

/-- A way to sign. -/
inductive SignatureKind where
  | rsa | rsaPss | rsaPssKey | ecdsa | dsa | ed25519 | ed448 | mldsa
  deriving Repr, DecidableEq

/-- The name of a way to sign. -/
def SignatureKind.name : SignatureKind → String
  | rsa => "rsaEncryption"
  | rsaPss | rsaPssKey => "RSASSA-PSS"
  | ecdsa => "id-ecPublicKey"
  | dsa => "dsaEncryption"
  | ed25519 => "ED25519"
  | ed448 => "ED448"
  | mldsa => "ML-DSA"

/-- A signature scheme. -/
structure Scheme where
  id : UInt16
  name : String
  kind : SignatureKind
  /-- The digest, where the scheme does not bring its own. -/
  digest : Option DigestKind
  /-- The one curve that TLS 1.3 admits for the scheme. -/
  curve : Option X509.KeyFamily
  deriving Repr, DecidableEq

namespace Scheme

/-- The schemes, in the order in which they are offered when nothing is configured. -/
def all : List Scheme :=
  [⟨0x0905, "mldsa65", .mldsa, none, none⟩,
   ⟨0x0906, "mldsa87", .mldsa, none, none⟩,
   ⟨0x0904, "mldsa44", .mldsa, none, none⟩,
   ⟨0x0403, "ecdsa_secp256r1_sha256", .ecdsa, some .sha256, some .p256⟩,
   ⟨0x0503, "ecdsa_secp384r1_sha384", .ecdsa, some .sha384, some .p384⟩,
   ⟨0x0603, "ecdsa_secp521r1_sha512", .ecdsa, some .sha512, some .p521⟩,
   ⟨0x0807, "ed25519", .ed25519, none, none⟩,
   ⟨0x0808, "ed448", .ed448, none, none⟩,
   ⟨0x081a, "ecdsa_brainpoolP256r1_sha256", .ecdsa, some .sha256, some .unknown⟩,
   ⟨0x081b, "ecdsa_brainpoolP384r1_sha384", .ecdsa, some .sha384, some .unknown⟩,
   ⟨0x081c, "ecdsa_brainpoolP512r1_sha512", .ecdsa, some .sha512, some .unknown⟩,
   ⟨0x0809, "rsa_pss_pss_sha256", .rsaPssKey, some .sha256, none⟩,
   ⟨0x080a, "rsa_pss_pss_sha384", .rsaPssKey, some .sha384, none⟩,
   ⟨0x080b, "rsa_pss_pss_sha512", .rsaPssKey, some .sha512, none⟩,
   ⟨0x0804, "rsa_pss_rsae_sha256", .rsaPss, some .sha256, none⟩,
   ⟨0x0805, "rsa_pss_rsae_sha384", .rsaPss, some .sha384, none⟩,
   ⟨0x0806, "rsa_pss_rsae_sha512", .rsaPss, some .sha512, none⟩,
   ⟨0x0401, "rsa_pkcs1_sha256", .rsa, some .sha256, none⟩,
   ⟨0x0501, "rsa_pkcs1_sha384", .rsa, some .sha384, none⟩,
   ⟨0x0601, "rsa_pkcs1_sha512", .rsa, some .sha512, none⟩,
   ⟨0x0303, "ecdsa_sha224", .ecdsa, some .sha224, none⟩,
   ⟨0x0203, "ecdsa_sha1", .ecdsa, some .sha1, none⟩,
   ⟨0x0301, "rsa_pkcs1_sha224", .rsa, some .sha224, none⟩,
   ⟨0x0201, "rsa_pkcs1_sha1", .rsa, some .sha1, none⟩,
   ⟨0x0302, "dsa_sha224", .dsa, some .sha224, none⟩,
   ⟨0x0202, "dsa_sha1", .dsa, some .sha1, none⟩,
   ⟨0x0402, "dsa_sha256", .dsa, some .sha256, none⟩,
   ⟨0x0502, "dsa_sha384", .dsa, some .sha384, none⟩,
   ⟨0x0602, "dsa_sha512", .dsa, some .sha512, none⟩]

/-- The scheme of a number. -/
def ofId? (id : UInt16) : Option Scheme := all.find? (·.id = id)

/-- How an RSA key signs before TLS 1.2. -/
def oldRsa : Scheme := ⟨0, "rsa_pkcs1_md5_sha1", .rsa, some .md5Sha1, none⟩

/-- How an elliptic-curve key signs before TLS 1.2. -/
def oldEcdsa : Scheme := ⟨0x0203, "ecdsa_sha1", .ecdsa, some .sha1, none⟩

/-! ### Lists of schemes as text -/

/-- A text in lower case. -/
def lowered (s : String) : String := s.map Char.toLower

/-- The way to sign that one half of a pair names. -/
def kindOfText? (s : String) : Option SignatureKind :=
  match lowered s with
  | "rsa" => some .rsa
  | "rsa-pss" | "pss" => some .rsaPss
  | "dsa" => some .dsa
  | "ecdsa" => some .ecdsa
  | _ => none

/-- The digest that one half of a pair names, in capitals or in small letters throughout. -/
def digestOfText? (s : String) : Option DigestKind :=
  [.sha1, .sha224, .sha256, .sha384, .sha512].find? fun (d : DigestKind) =>
    s = d.name || s = lowered d.name

/-- The scheme that one part of a list names: by name, or as a pair of halves in either order. -/
def ofText? (s : String) : Option Scheme :=
  match splitAtAny (· = '+') s.toList with
  | [_] => all.find? fun x => x.name = lowered s
  | a :: rest =>
    let (first, second) := (String.ofList a, "+".intercalate (rest.map String.ofList))
    let pair := match kindOfText? first, digestOfText? second with
      | some k, some d => some (k, d)
      | _, _ =>
        match kindOfText? second, digestOfText? first with
        | some k, some d => some (k, d)
        | _, _ => none
    pair.bind fun (k, d) => all.find? fun x => x.kind = k && x.digest = some d
  | [] => none

/-- The schemes of a list in order, if each part is known or forgiven and one is known. -/
def ofTextList? (s : String) : Option (List Scheme) := do
  let found ← (colonPieces s).mapM fun part =>
    match (trimBlanks part).toList with
    | '?' :: name => some (ofText? (String.ofList name)).toList
    | name => (ofText? (String.ofList name)).map ([·])
  let schemes : List Scheme := found.flatten.eraseDups
  if schemes.isEmpty then none else some schemes

/-! ### Keys and schemes -/

/-- Whether a key of a family can sign by a scheme in the given version. -/
def fitsKey (x : Scheme) (v : Version) (family : X509.KeyFamily) : Bool :=
  match family with
  | .p256 | .p384 | .p521 =>
    x.kind = .ecdsa && (v != .tls13 || x.curve = some family)
  | .rsa _ => (x.kind = .rsaPss || x.kind = .rsa)
  | .ed25519 => x.kind = .ed25519
  | .unknown => false

/-- Whether a version admits a scheme at all. -/
def isIn (x : Scheme) (v : Version) : Bool :=
  v != .tls13
    || (x.kind != .rsa && x.kind != .dsa && x.digest != some .sha1 && x.digest != some .sha224)

/-- Whether a level of security admits a scheme. -/
def isAt (x : Scheme) (level : Nat) : Bool :=
  match x.digest with
  | some d => levelBits level ≤ d.bits
  | none => true

end Scheme

end SocketlessTls.Policy
