import SocketlessTls.Engine.Interface
import SocketlessTls.Policy.Side
import SocketlessTls.Transparent.Flow

/-!
# What follows from the suite and the group agreed on

Both ends derive the same things from what they have agreed on: the size of the last messages, how
records are protected from one moment to the next, and what the peer's share of a key exchange
looks like.
-/

namespace SocketlessTls.Transparent

open Policy

/-- Whether a suite's handshake digest is the longer one. -/
def hasLongDigest (s : Suite) : Bool := s.standardName.endsWith "SHA384"

/-- The size of a suite's handshake digest. -/
def digestSize (s : Suite) : Nat := if hasLongDigest s then 48 else 32

/-- The body of the message that ends a handshake. -/
def finishedBody (modern : Bool) (s : Suite) : Bytes :=
  filler (if modern then digestSize s else 12) 0xf1

/-- What a peer's share in a group shows as. -/
def ephemeralKey? : Group → Option EphemeralKey
  | .x25519 => some ⟨.x25519, 253, some "X25519"⟩
  | .x448 => some ⟨.x448, 448, some "X448"⟩
  | .p256 => some ⟨.ecdh, 256, some "prime256v1"⟩
  | .p384 => some ⟨.ecdh, 384, some "secp384r1"⟩
  | .p521 => some ⟨.ecdh, 521, some "secp521r1"⟩
  | .ffdhe2048 => some ⟨.dh, 2048, none⟩
  | .ffdhe3072 => some ⟨.dh, 3072, none⟩
  | .ffdhe4096 => some ⟨.dh, 4096, none⟩
  | .ffdhe6144 => some ⟨.dh, 6144, none⟩
  | .ffdhe8192 => some ⟨.dh, 8192, none⟩
  | _ => none

/-- The secret bytes of a session. -/
def sessionSecret : Bytes := filler 48 0x5e

/-- The size of a signature by a key. -/
def signatureSize : X509.KeyFamily → Nat
  | .rsa bits => (bits + 7) / 8
  | .p256 => 71
  | .p384 => 103
  | .p521 => 139
  | .ed25519 => 64
  | .unknown => 0

/-- A signature by a key. -/
def signature (family : X509.KeyFamily) : Bytes := filler (signatureSize family) 0x51

/-- How a key signs before TLS 1.2, when schemes were not agreed on. -/
def oldScheme : X509.KeyFamily → Scheme
  | .rsa _ => .oldRsa
  | _ => .oldEcdsa

/-- The scheme that a key signs by: the first of those that the peer admits. -/
def chooseScheme? (v : Version) (own peers : List Scheme) (family : X509.KeyFamily) :
    Option Scheme :=
  if v ≤ .tls11 then some (oldScheme family)
  else peers.find? fun x => own.contains x && x.isIn v && x.fitsKey v family

/-- Whether a suite can be used in a version. -/
def isUsableIn (v : Version) (s : Suite) : Bool :=
  if v = .tls13 then s.since = .tls13 else s.since ≠ .tls13 && s.since ≤ v

/-- The signal that takes the place of the renegotiation extension. -/
def renegotiationSignal : UInt16 := 0x00ff

/-- Whether a suite is used with keys of a family. -/
def suitsKey (s : Suite) (family : X509.KeyFamily) : Bool :=
  match family with
  | .rsa _ => s.auth = .rsa
  | .p256 | .p384 | .p521 | .ed25519 => s.auth = .ecdsa
  | .unknown => false

/-- The number of the scheme of a signature, which versions before TLS 1.2 leave out. -/
def writtenScheme (v : Version) (x : Scheme) : Option UInt16 :=
  if v ≤ .tls11 then none else some x.id

/-- Whether the server of a suite sends a share and signs it. -/
def hasServerShare (s : Suite) : Bool := s.kx = .dhe || s.kx = .ecdhe

namespace Act

variable {ρ : Type}

/-- Makes a session object. -/
def makeObject : Act ρ ObjectId := (Call.makeObject .done : Call _)

/-- The suite chosen in the handshake under way. -/
def chosenSuite : Act ρ Suite := do
  orFail (← get).suite AlertCode.internalError .internalError

/-- Sets how what is written is protected from now on. -/
def protectWriting (p : Protection) : Act ρ Unit := modify fun m => { m with writeSide := p }

/-- Sets how what is read is protected from now on. -/
def protectReading (p : Protection) : Act ρ Unit := modify fun m => { m with readSide := p }

/-- The protection of an epoch of TLS 1.3 by the chosen suite. -/
def modernProtection (e : Epoch) : Act ρ Protection :=
  return .sealed e (.ofModern (← chosenSuite))

/-- The protection before TLS 1.3 by the chosen suite. -/
def classicProtection : Act ρ Protection := do
  let m ← get
  return .sealed .classic (.ofClassic (← chosenSuite) (m.version.getD .tls12) m.encryptThenMac)

/-- Fails unless a message that changes keys ends its record. -/
def requireBoundary : Act ρ Unit := do
  if (← get).record.isSome then failWith AlertCode.unexpectedMessage .notOnRecordBoundary

/-- A handshake message. -/
def message (type : MessageType) (body : Bytes) : Option (ContentType × Bytes) :=
  some (.handshake, messageBytes type body)

/-- The notice of changed ciphers. -/
def changeNotice : Option (ContentType × Bytes) := some (.changeCipherSpec, [1])

end Act

end SocketlessTls.Transparent
