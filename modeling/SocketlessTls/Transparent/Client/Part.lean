import SocketlessTls.Transparent.Agreement
import SocketlessTls.Transparent.Placement
import SocketlessTls.Transparent.Verification

/-!
# The client's part of a machine

What belongs to a client alone: its policy, the session at hand, what it asked for in its greeting,
and what it has learned of the server. The acts here look at that part and change it; they are what
the steps of a client's handshake are written in.
-/

namespace SocketlessTls.Transparent

open Policy

/-- How a request for a certificate is answered. -/
inductive CertificateAnswer where
  /-- There was no request. -/
  | unasked
  | identity
  | empty
  deriving Repr, DecidableEq

/-- The client's part of a machine. -/
structure ClientPart where
  policy : Client
  /-- The session offered, made, or resumed. Its suite is zero as long as there is none. -/
  session : Option Session
  /-- Whether no session may be resumed in the handshake under way. -/
  startsAfresh : Bool
  /-- The session identifier of the greeting, where TLS 1.3 is possible. -/
  echo : Bytes
  /-- The extensions of the greeting. -/
  asked : List UInt16
  /-- The groups that shares were sent for. -/
  shares : List Group
  /-- The group of the key exchange before TLS 1.3. -/
  group : Option Group
  /-- The group asked for when the client has to greet again. -/
  retryGroup : Option Group
  cookie : Option Bytes
  offersTicket : Bool
  answer : CertificateAnswer
  /-- The schemes that the server takes a certificate with. -/
  requestedSchemes : List Scheme
  ownScheme : Option Scheme
  authorities : List X509.Name
  ticketExpected : Bool
  statusExpected : Bool
  /-- Whether nothing speaks against the early data that was sent. -/
  earlyFits : Bool
  peerChain : Option (List Bytes)
  verifyCode : Int
  peerScheme : Option Scheme
  ocsp : Option Bytes
  alpn : Option Bytes
  ephemeral : Option EphemeralKey
  /-- Whether the server knows how to renegotiate safely. -/
  isSecure : Bool

/-- The client's part before the first handshake. -/
def ClientPart.initial (policy : Client) : ClientPart where
  policy := policy
  session := none
  startsAfresh := false
  echo := []
  asked := []
  shares := []
  group := none
  retryGroup := none
  cookie := none
  offersTicket := false
  answer := .unasked
  requestedSchemes := []
  ownScheme := none
  authorities := []
  ticketExpected := false
  statusExpected := false
  earlyFits := false
  peerChain := none
  verifyCode := 0
  peerScheme := none
  ocsp := none
  alpn := none
  ephemeral := none
  isSecure := false

namespace ClientPart

/-- The newest version that the client agrees to. -/
def newest (c : ClientPart) : Option Version := c.policy.terms.versions.getLast?

/-- Whether the client agrees to TLS 1.3. -/
def admitsModern (c : ClientPart) : Bool := c.newest = some .tls13

/-- The contents of the session at hand. -/
def content? (c : ClientPart) : Option SessionContent := c.session.map (·.content)

/-- The suite of the session at hand. -/
def sessionSuite? (c : ClientPart) : Option Suite := c.content?.bind fun s => Suite.ofId? s.suite

/-- The part with the contents of its session changed. -/
def mapContent (f : SessionContent → SessionContent) (c : ClientPart) : ClientPart :=
  { c with session := c.session.map fun s => { s with content := f s.content } }

end ClientPart

/-- What a client does. -/
abbrev ClientAct := Act ClientPart

namespace ClientAct

/-- The client's part. -/
def part : ClientAct ClientPart := return (← get).own

/-- Changes the client's part. -/
def update (f : ClientPart → ClientPart) : ClientAct Unit :=
  modify fun m => { m with own := f m.own }

/-- Changes the contents of the session at hand. -/
def updateSession (f : SessionContent → SessionContent) : ClientAct Unit := update (·.mapContent f)

/-- Takes a fresh session in place of the one at hand. -/
def renewSession : ClientAct Unit := do
  let object ← Act.makeObject
  let newest := (((← part).newest.map Version.wire).getD 0).toNat
  update fun c =>
    { c with
      session := some ⟨object, SessionContent.blank newest 0 [] []⟩
      peerChain := none }

/-- Fails with a complaint. -/
def complain {α : Type} (c : Complaint) : ClientAct α := Act.failWith c.alert c.reason

/-- The value, or a failure with the complaint that stands in its place. -/
def orComplain {α : Type} : Except Complaint α → ClientAct α
  | .ok a => return a
  | .error c => complain c

end ClientAct

end SocketlessTls.Transparent
