import SocketlessTls.Curve.Ed25519
import SocketlessTls.X509.Certificate

/-!
# Private keys

A private key is kept as the public key that it belongs to, which is all that choosing and
matching keys looks at. An elliptic-curve key and an RSA key carry their public part; an Ed25519
key is a seed, and its public part is computed.
-/

namespace SocketlessTls.X509

/-- A private key, known by its public key. -/
structure PrivateKey where
  publicKey : PublicKey
  deriving Repr, DecidableEq

/-- The algorithms of keys. -/
def ecAlgorithm : ObjectId := [1, 2, 840, 10045, 2, 1]
def rsaAlgorithm : ObjectId := [1, 2, 840, 113549, 1, 1, 1]
def ed25519Algorithm : ObjectId := [1, 3, 101, 112]

/-- The named curves P-256, P-384 and P-521, as encoded parameters. -/
def p256Parameters : Bytes := [6, 8, 0x2a, 0x86, 0x48, 0xce, 0x3d, 3, 1, 7]
def p384Parameters : Bytes := [6, 5, 0x2b, 0x81, 0x04, 0x00, 0x22]
def p521Parameters : Bytes := [6, 5, 0x2b, 0x81, 0x04, 0x00, 0x23]

/-- The public bits inside an elliptic-curve key: the explicit member 1 of its sequence. -/
def ecPublicBits? (key : Bytes) : Option Bytes := do
  let (outer, _) ← Asn1.readElement? key
  let members ← outer.members? .sequence
  let wrapped ← members.find? (·.tag = .context 1)
  (← wrapped.member? (.context 1)).bits?

/-- The public bits inside an RSA key: the sequence of its modulus and its public exponent. -/
def rsaPublicBits? (key : Bytes) : Option Bytes := do
  let (outer, _) ← Asn1.readElement? key
  match ← outer.members? .sequence with
  | _version :: modulus :: exponent :: _ =>
    let _ ← modulus.integer? .integer
    let _ ← exponent.integer? .integer
    return Asn1.encodeSequence (modulus.raw ++ exponent.raw)
  | _ => none

/-- The public bits of an Ed25519 key, whose inner string is its seed. -/
def ed25519PublicBits? (key : Bytes) : Option Bytes := do
  let (inner, _) ← Asn1.readElement? key
  let seed ← inner.primitive? .octetString
  if seed.length = 32 then some (Curve.Ed25519.publicKeyOfSeed seed) else none

/-- Reads a private key: a version, an algorithm and the key itself. -/
def PrivateKey.ofDer? (bs : Bytes) : Option PrivateKey := do
  let (outer, _) ← Asn1.readElement? bs
  match ← outer.members? .sequence with
  | version :: algorithm :: key :: _ =>
    let _ ← version.integer? .integer
    let (object, parameters) ← algorithmOf? algorithm
    let key ← key.primitive? .octetString
    let bits ←
      if object = ecAlgorithm then ecPublicBits? key
      else if object = rsaAlgorithm then rsaPublicBits? key
      else if object = ed25519Algorithm then ed25519PublicBits? key
      else none
    return ⟨⟨object, parameters, bits⟩⟩
  | _ => none

/-! ### The strength of a key -/

/-- The families of keys that a certificate may hold. -/
inductive KeyFamily where
  | p256
  | p384
  | p521
  | rsa (bits : Nat)
  | ed25519
  | unknown
  deriving Repr, DecidableEq

/-- The number of bits of an RSA key's modulus. -/
def rsaModulusBits (bits : Bytes) : Nat :=
  match (Asn1.readElement? bits).bind fun (e, _) => e.members? .sequence with
  | some (modulus :: _) => (Bytes.toNat modulus.content).log2 + 1
  | _ => 0

/-- The family of a public key. -/
def PublicKey.family (k : PublicKey) : KeyFamily :=
  if k.algorithm = ecAlgorithm then
    if k.parameters = p256Parameters then .p256
    else if k.parameters = p384Parameters then .p384
    else if k.parameters = p521Parameters then .p521
    else .unknown
  else if k.algorithm = rsaAlgorithm then .rsa (rsaModulusBits k.bits)
  else if k.algorithm = ed25519Algorithm then .ed25519
  else .unknown

/-- The bits of security that a key is good for. -/
def KeyFamily.securityBits : KeyFamily → Nat
  | .rsa bits =>
    if bits < 1024 then 0 else if bits < 2048 then 80 else if bits < 3072 then 112
    else if bits < 7680 then 128 else if bits < 15360 then 192 else 256
  | .p256 | .ed25519 => 128
  | .p384 => 192
  | .p521 => 256
  | .unknown => 0

end SocketlessTls.X509
