import SocketlessTls.Suite
import SocketlessTls.X509.Certificate

/-!
# What a session holds, and how it is written

A session is what a client keeps of a connection so that a later one can resume it. It is written
as a sequence: five members that are always there, and then the optional ones, each in an explicit
tag of its own number and in the order of these numbers.

* `SocketlessTls.SessionContent.decode?` – reads a session; bytes after the sequence are ignored;
* `SocketlessTls.SessionContent.encode` – writes a session. A number that is zero is left out,
  with three exceptions: the lifetime, which is three where none was read, the context, and the
  key-exchange group are always written.

Moments and lifetimes are counted in billionths of a second in 64 bits, and come back as whole
seconds; a negative one therefore comes back as a large one.
-/

namespace SocketlessTls

/-- The contents of a session. -/
structure SessionContent where
  /-- The number of the protocol version. -/
  protocol : Int
  suite : UInt16
  id : Bytes
  secret : Bytes
  /-- When the session was made, in seconds. -/
  time : Nat
  /-- How long the session lasts, in seconds. -/
  timeout : Nat
  peer : Option X509.Certificate
  context : Bytes
  verifyResult : Int
  hostname : Option Bytes
  pskHint : Option Bytes
  pskIdentity : Option Bytes
  ticketLifetime : Nat
  ticket : Option Bytes
  srpUser : Option Bytes
  flags : Nat
  ticketAgeAdd : Nat
  maxEarlyData : UInt32
  alpn : Option Bytes
  maxFragment : Nat
  ticketData : Option Bytes
  kexGroup : Nat
  deriving Repr, DecidableEq

namespace SessionContent

/-- A session with nothing in it but a version, a suite, an identifier and a secret. -/
def blank (protocol : Int) (suite : UInt16) (id secret : Bytes) : SessionContent :=
  { protocol, suite, id, secret, time := 0, timeout := 0, peer := none, context := [],
    verifyResult := 0, hostname := none, pskHint := none, pskIdentity := none,
    ticketLifetime := 0, ticket := none, srpUser := none, flags := 0, ticketAgeAdd := 0,
    maxEarlyData := 0, alpn := none, maxFragment := 0, ticketData := none, kexGroup := 0 }

/-- The protocol version, if its number is known. -/
def version? (c : SessionContent) : Option Version :=
  Version.all.find? fun v => (v.wire.toNat : Int) = c.protocol

/-! ### Reading -/

/-- The moment that stands for “now” where a session does not say when it was made. -/
def unknownTime : Nat := 1767225600

/-- Whole seconds after a count in billionths of a second in 64 bits. -/
def wholeSeconds (seconds : Int) : Nat :=
  (seconds * 1000000000 % (1 <<< 64 : Nat)).toNat / 1000000000

/-- The bounds of a number of so many bits. -/
structure Width where
  lowest : Int
  limit : Int

/-- The bounds of a number with a sign. -/
def Width.signed (bits : Nat) : Width := ⟨-(1 <<< (bits - 1) : Nat), (1 <<< (bits - 1) : Nat)⟩

/-- The bounds of a number without a sign. -/
def Width.unsigned (bits : Nat) : Width := ⟨0, (1 <<< bits : Nat)⟩

/-- A number within bounds. -/
def numberIn? (w : Width) (e : Asn1.Element) : Option Int := do
  let n ← e.integer? .integer
  if w.lowest ≤ n ∧ n < w.limit then some n else none

/-- A text up to its first NUL. -/
def upToNul (bs : Bytes) : Bytes := bs.takeWhile (· != 0)

open Asn1

/-- The element inside an optional explicit tag. -/
def optionalField (number : Nat) : Fields (Option Element) := do
  match ← Fields.optional (.context number) with
  | none => return none
  | some e => return some (← Fields.lift (e.member? (.context number)))

/-- An optional number within bounds, zero where it is missing. -/
def optionalNumber (number : Nat) (w : Width) : Fields Int := do
  match ← optionalField number with
  | none => return 0
  | some e => Fields.lift (numberIn? w e)

/-- An optional octet string. -/
def optionalOctets (number : Nat) : Fields (Option Bytes) := do
  match ← optionalField number with
  | none => return none
  | some e => return some (← Fields.lift (e.primitive? .octetString))

/-- The next member, an octet string of at most `max` bytes. -/
def octets (max : Nat) : Fields Bytes := do
  let bs ← Fields.lift ((← Fields.next).primitive? .octetString)
  if bs.length ≤ max then return bs else Fields.lift none

/-- Whether a number stands for a protocol version, of streams or of datagrams. -/
def isProtocolNumber (n : Int) : Bool :=
  n / 256 = 3 || n / 256 = 0xfe || n = 0x100

/-- The members of a session. -/
def members : Fields SessionContent := do
  if (← Fields.lift (numberIn? (.signed 32) (← Fields.next))) ≠ 1 then Fields.lift none
  let protocol ← Fields.lift (numberIn? (.signed 32) (← Fields.next))
  let suiteBytes ← Fields.lift ((← Fields.next).primitive? .octetString)
  let id ← octets 32
  let secret ← octets 512
  if let some keyArgument ← Fields.optional (.context 0) then
    let _ ← Fields.lift (keyArgument.primitive? (.context 0))
  let time ← optionalNumber 1 (.signed 64)
  let timeout ← optionalNumber 2 (.signed 64)
  let peer ← (do
    match ← optionalField 3 with
    | none => return none
    | some e => return some (← Fields.lift (X509.Certificate.ofDer? e.raw)) : Fields _)
  let context := (← optionalOctets 4).getD []
  let verifyResult ← optionalNumber 5 (.signed 32)
  let hostname ← optionalOctets 6
  let pskHint ← optionalOctets 7
  let pskIdentity ← optionalOctets 8
  let ticketLifetime ← optionalNumber 9 (.unsigned 64)
  let ticket ← optionalOctets 10
  let _ ← optionalOctets 11
  let srpUser ← optionalOctets 12
  let flags ← optionalNumber 13 (.unsigned 64)
  let ticketAgeAdd ← optionalNumber 14 (.unsigned 32)
  let maxEarlyData ← optionalNumber 15 (.unsigned 32)
  let alpn ← optionalOctets 16
  let maxFragment ← optionalNumber 17 (.unsigned 32)
  let ticketData ← optionalOctets 18
  let kexGroup ← optionalNumber 19 (.unsigned 32)
  let suite := UInt16.ofNat (Bytes.toNat suiteBytes)
  if !isProtocolNumber protocol || suiteBytes.length ≠ 2 || !Suite.isKnownId suite
      || context.length > 32 then Fields.lift none
  return {
    protocol, suite, id, secret, peer, context, verifyResult, ticket, alpn, ticketData,
    time := if time = 0 then unknownTime else wholeSeconds time
    timeout := if timeout = 0 then 3 else wholeSeconds timeout
    hostname := hostname.map upToNul
    pskHint := pskHint.map upToNul
    pskIdentity := pskIdentity.map upToNul
    srpUser := srpUser.map upToNul
    ticketLifetime := ticketLifetime.toNat
    flags := flags.toNat % (1 <<< 32)
    ticketAgeAdd := ticketAgeAdd.toNat
    maxEarlyData := UInt32.ofNat maxEarlyData.toNat
    maxFragment := maxFragment.toNat
    kexGroup := kexGroup.toNat }

/-- Reads the session at the front of a byte string. -/
def decode? (bs : Bytes) : Option SessionContent := do
  let (outer, _) ← readElement? bs
  members.run? (← outer.members? .sequence)

/-! ### Writing -/

/-- A number in an explicit tag. -/
def encodeNumber (number : Nat) (n : Int) : Bytes := encodeExplicit number (encodeInteger n)

/-- A number in an explicit tag, left out if it is zero. -/
def encodeNonzero (number : Nat) (n : Int) : Bytes := if n = 0 then [] else encodeNumber number n

/-- Octets in an explicit tag, left out if there are none. -/
def encodeOptional (number : Nat) : Option Bytes → Bytes
  | none => []
  | some bs => encodeExplicit number (encodeOctets bs)

/-- Writes a session. -/
def encode (c : SessionContent) : Bytes :=
  encodeSequence <|
    encodeInteger 1 ++ encodeInteger c.protocol ++ encodeOctets (Bytes.ofNat 2 c.suite.toNat)
    ++ encodeOctets c.id ++ encodeOctets c.secret
    ++ encodeNumber 1 c.time ++ encodeNumber 2 c.timeout
    ++ (match c.peer with
        | some peer => encodeExplicit 3 peer.der
        | none => [])
    ++ encodeExplicit 4 (encodeOctets c.context) ++ encodeNonzero 5 c.verifyResult
    ++ encodeOptional 6 c.hostname ++ encodeOptional 7 c.pskHint ++ encodeOptional 8 c.pskIdentity
    ++ encodeNonzero 9 c.ticketLifetime ++ encodeOptional 10 c.ticket
    ++ encodeOptional 12 c.srpUser ++ encodeNonzero 13 c.flags
    ++ encodeNonzero 14 c.ticketAgeAdd ++ encodeNonzero 15 c.maxEarlyData.toNat
    ++ encodeOptional 16 c.alpn ++ encodeNonzero 17 c.maxFragment
    ++ encodeOptional 18 c.ticketData ++ encodeNumber 19 c.kexGroup

end SessionContent

end SocketlessTls
