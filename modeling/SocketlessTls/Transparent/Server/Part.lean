import SocketlessTls.Ocsp
import SocketlessTls.Transparent.Agreement
import SocketlessTls.Transparent.Placement
import SocketlessTls.Transparent.Server.Store
import SocketlessTls.Transparent.Verification

/-!
# The server's part of a machine

What belongs to a server alone: its policy, the store of its sessions, the session at hand, what
the client offered, and what was chosen from that.
-/

namespace SocketlessTls.Transparent

open Policy

/-- What a client offered, as far as it is looked at more than once. -/
structure Offer where
  suites : List UInt16
  groups : List Group
  /-- The groups that a share came for. -/
  shares : List Group
  schemes : List Scheme
  protocols : Option (List Bytes)
  wantsStatus : Bool
  wantsEarlyData : Bool
  deriving Repr, DecidableEq

/-- An offer of nothing. -/
def Offer.none : Offer := ⟨[], [], [], [], .none, false, false⟩

/-- The server's part of a machine. -/
structure ServerPart where
  policy : Policy.Server
  store : SessionStore
  session : Option SessionContent
  /-- Whether no session may be resumed in the handshake under way. -/
  startsAfresh : Bool
  offer : Offer
  /-- The session identifier to be repeated to the client. -/
  echo : Bytes
  serverName : Option Bytes
  alpn : Option Bytes
  group : Option Group
  scheme : Option Scheme
  ticketExpected : Bool
  ticketsSent : Nat
  /-- The status response to be stapled. -/
  staple : Option Bytes
  certificateRequested : Bool
  /-- Whether nothing speaks against the early data that was offered. -/
  earlyFits : Bool
  /-- Whether the client knows how to renegotiate safely. -/
  isSecure : Bool

/-- The server's part before the first handshake. -/
def ServerPart.initial (policy : Policy.Server) (store : SessionStore) : ServerPart where
  policy := policy
  store := store
  session := none
  startsAfresh := false
  offer := .none
  echo := []
  serverName := none
  alpn := none
  group := none
  scheme := none
  ticketExpected := false
  ticketsSent := 0
  staple := none
  certificateRequested := false
  earlyFits := false
  isSecure := false

namespace ServerPart

/-- The family of the server's key. -/
def keyFamily (c : ServerPart) : X509.KeyFamily := c.policy.identity.1.publicKey.family

/-- The certificates that the server presents. -/
def chain (c : ServerPart) : List X509.Certificate :=
  chainToSend c.policy.chain c.policy.clientAuthorities c.policy.identity.1

/-- The client's certificate. -/
def clientCertificate? (c : ServerPart) : Option X509.Certificate := c.session.bind (·.peer)

end ServerPart

/-- What a server does. -/
abbrev ServerAct := Act ServerPart

namespace ServerAct

/-- The server's part. -/
def part : ServerAct ServerPart := return (← get).own

/-- Changes the server's part. -/
def update (f : ServerPart → ServerPart) : ServerAct Unit :=
  modify fun m => { m with own := f m.own }

/-- Changes the session at hand. -/
def updateSession (f : SessionContent → SessionContent) : ServerAct Unit :=
  update fun c => { c with session := c.session.map f }

/-- An identifier that was not given out before. -/
def freshId : ServerAct Bytes := do
  let (id, store) := (← part).store.freshId
  update fun c => { c with store }
  return id

/-- Keeps the session at hand. -/
def keepSession : ServerAct Unit :=
  update fun c =>
    match c.session with
    | some s => { c with store := c.store.insert s }
    | none => c

end ServerAct

end SocketlessTls.Transparent
