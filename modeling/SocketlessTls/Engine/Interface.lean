import SocketlessTls.Config.Basic
import SocketlessTls.Engine.Call
import SocketlessTls.Poll
import SocketlessTls.Suite

/-!
# What a connection asks of an engine

A connection drives any engine that offers the operations of `SocketlessTls.Engine`. An engine has
a state of its own kind. Building it from a configuration and adding what belongs to one connection
happen before there is a pipe; from then on each operation is a call that yields a raw outcome and
the next state. The remaining operations look at a state and change nothing.
-/

namespace SocketlessTls

/-- A negotiated protocol version, by the engine's name and by its number. -/
structure ProtocolVersion where
  name : String
  number : UInt16
  deriving Repr, DecidableEq

/-- The version that a number stands for, if it is a known one. -/
def ProtocolVersion.version? (p : ProtocolVersion) : Option Version := Version.ofWire? p.number

/-- The outcome of verifying the peer's certificate. -/
structure VerifyResult where
  /-- Zero for success. -/
  code : Int
  message : String
  deriving Repr, DecidableEq

namespace VerifyResult

/-- Whether the certificate verified. -/
def isOk (r : VerifyResult) : Bool := r.code = 0

/-- A result in words. -/
def text (r : VerifyResult) : String := s!"{r.message} ({r.code})"

end VerifyResult

/-- The family of an ephemeral key. -/
inductive KeyExchange where
  | dh
  | ecdh
  | x25519
  | x448
  /-- Anything else, such as a hybrid group. -/
  | other
  deriving Repr, DecidableEq

/-- The name of a family as a label. -/
def KeyExchange.label : KeyExchange → String
  | dh => "Dh"
  | ecdh => "Ecdh"
  | x25519 => "X25519"
  | x448 => "X448"
  | other => "Other"

/-- The public key that the peer sent for the ephemeral key exchange. -/
structure EphemeralKey where
  kind : KeyExchange
  bits : Nat
  curve : Option String
  deriving Repr, DecidableEq

/-- How far closing has come, as the engine sees it. -/
inductive ShutdownResult where
  /-- The closing alert has been sent. -/
  | sent
  /-- The peer's closing alert has been received too. -/
  | received
  deriving Repr, DecidableEq

/-- The operations of an engine with states of type `σ`. -/
structure Engine (σ : Type) where
  /-- An engine for a configuration. -/
  build? : Config → Option σ
  /-- Adds what belongs to one connection: the name and the status asked for, and the session to
  resume, which is an object of its own. -/
  prepare? : Config → Option Session → σ → Option σ
  /-- Joins the engine to its end of the pipe. -/
  attach? : σ → Option σ
  handshake : σ → Call (RawOutcome Unit × σ)
  write : Bytes → σ → Call (RawOutcome Nat × σ)
  writeEarlyData : Bytes → σ → Call (RawOutcome Nat × σ)
  /-- Decrypts at most so many bytes. -/
  read : Nat → σ → Call (RawOutcome Bytes × σ)
  shutdown : σ → Call (RawOutcome ShutdownResult × σ)
  /-- Schedules a new handshake, or refuses. -/
  renegotiate : σ → Bool × σ
  /-- Gives the engine up. -/
  discard : σ → Call Unit
  version : σ → ProtocolVersion
  /-- The cipher chosen while the handshake is under way. -/
  pendingCipher : σ → Option Cipher
  currentCipher : σ → Option Cipher
  /-- The encodings of the peer's certificates, its own first. -/
  peerChain : σ → Option (List Bytes)
  peerCertificate : σ → Option X509.Certificate
  clientCaNames : σ → List X509.Name
  verifyResult : σ → VerifyResult
  signatureDigest : σ → Option String
  signatureType : σ → Option String
  /-- The live session object. -/
  session : σ → Option Session
  sessionReused : σ → Bool
  ocspResponse : σ → Option Bytes
  compression : σ → Option String
  alpnProtocol : σ → Option Bytes
  ephemeralKey : σ → Option EphemeralKey
  secureRenegotiation : σ → Bool
  /-- 1 for early data refused or not yet answered, 2 for accepted, anything else for none. -/
  earlyDataStatus : σ → Int
  pendingBytes : σ → Nat
  stateText : σ → String
  cipherNames : σ → List String

/-- The cipher to be seen at an engine: the pending one, or else the current one. -/
def Engine.observedCipher {σ : Type} (E : Engine σ) (s : σ) : Option Cipher :=
  (E.pendingCipher s).or (E.currentCipher s)

/-- The cipher to remember after a look at an engine: what was remembered stays unless another
suite is seen. -/
def remember (seen : Option Cipher) : Option Cipher → Option Cipher
  | none => seen
  | some c =>
    match seen with
    | none => some c
    | some old => if old.protocolId = c.protocolId then some old else some c

end SocketlessTls
