import SocketlessTls.Bench.Identities
import SocketlessTls.Transparent.Operation
import SocketlessTls.Transparent.Server.Script
import SocketlessTls.Transparent.Status

/-!
# A reference server

A client is tried out against a server that sits on the caller endpoint of its pipe. The server is
described by a plan, in which nearly everything may be left out, and all servers of one plan share
their sessions. It does as much as the pipe lets it whenever it is asked to, and tells how that
went.

* `SocketlessTls.Bench.ServerPlan` – what a server is to be;
* `SocketlessTls.Bench.Reference` – a server at one pipe;
* `SocketlessTls.Bench.Reference.step`, `readAll`, `write`, `close`, `facts` – what it is asked.
-/

namespace SocketlessTls.Bench

open Transparent

/-- What a reference server is to be. -/
structure ServerPlan where
  minVersion : Option Version
  maxVersion : Option Version
  ciphers : Option String
  suites : Option String
  groups : Option String
  sigalgs : Option String
  identity : Identity
  /-- Certificates sent after the server's own. -/
  chain : List Identity
  hasDh : Bool
  renegotiates : Bool
  tickets : Bool
  ticketCount : Nat
  maxEarlyData : UInt32
  requestsCertificate : Bool
  requiresCertificate : Bool
  /-- The authorities that are named to clients and trusted. -/
  authorities : List Identity
  alpn : Option (List String)
  alpnStrict : Bool
  ocsp : Option Bytes

/-- What a plan makes a server willing to do; none if an identity in it does not read. -/
def ServerPlan.policy? (p : ServerPlan) : Option Policy.Server := do
  return {
    terms := .ofTexts p.ciphers p.suites p.sigalgs p.groups p.minVersion p.maxVersion .empty
    identity := ← p.identity.credentials?
    chain := ← p.chain.mapM Identity.certificate?
    hasDh := p.hasDh
    renegotiates := p.renegotiates
    tickets := p.tickets
    ticketCount := p.ticketCount
    maxEarlyData := p.maxEarlyData
    requestsCertificate := p.requestsCertificate || p.requiresCertificate
    requiresCertificate := p.requiresCertificate
    clientAuthorities := ← p.authorities.mapM Identity.certificate?
    alpn := p.alpn.map fun names => names.map Bytes.ofString
    alpnStrict := p.alpnStrict
    ocsp := p.ocsp }

/-! ### What a server answers -/

/-- How far a server's handshake has come. -/
inductive Progress where
  | pending
  | established
  | failed
  deriving Repr, DecidableEq

/-- Why a server stopped reading. -/
inductive ReadEnd where
  | drained
  | closed
  | failed
  deriving Repr, DecidableEq

/-- What became of a server's write; a write that does not fit counts as not sent. -/
inductive WriteEnd where
  | written
  | full
  | failed
  deriving Repr, DecidableEq

/-- How far closing has come on a server's side. -/
inductive Closing where
  | sent
  | complete
  | pending
  | failed
  deriving Repr, DecidableEq

/-- What a server has learnt. -/
structure ServerFacts where
  serverName : Option Bytes
  clientCertificate : Option X509.Certificate
  version : String
  cipher : Option String
  alpn : Option Bytes
  reused : Bool
  early : Bytes
  established : Bool

/-! ### Servers -/

/-- A server at one pipe. -/
structure Reference where
  machine : Machine ServerPart
  /-- Whether early data is still being taken. -/
  takesEarly : Bool
  /-- The early data taken so far. -/
  early : Bytes
  /-- The size of the write that is held up. -/
  held : Option Nat
  /-- Whether the server has got through its handshake, whatever came of it later. -/
  isEstablished : Bool

namespace Reference

/-- A server that has not been greeted yet. -/
def initial (policy : Policy.Server) (store : SessionStore) (takesEarly : Bool) : Reference where
  machine := .initial .server false (.initial policy store)
  takesEarly := takesEarly
  early := []
  held := none
  isEstablished := false

/-- The sessions that the server keeps. -/
def store (r : Reference) : SessionStore := r.machine.own.store

/-- The server without the session at hand among those it keeps. -/
def forget (r : Reference) : Reference :=
  let own := r.machine.own
  match own.session with
  | some s =>
    { r with machine := { r.machine with own := { own with store := own.store.erase s.id } } }
  | none => r

/-- Runs an act at the server's end of the pipe. A session that was spoilt on the way is not kept
any longer. -/
def perform {α : Type} (a : ServerAct α) (r : Reference) (w : Call.World) :
    RawOutcome α × Reference × Call.World :=
  let ((result, machine), w) := (a.perform r.machine).run .caller w
  let r := { r with machine := { machine with spoilt := false } }
  (result, if machine.spoilt then r.forget else r, w)

/-- Whether a failed call may be tried again once the pipe has moved. -/
def isRetry (f : EngineFailure) : Bool :=
  f.code = ResultCode.wantRead || f.code = ResultCode.wantWrite

/-- How much a server could still read, in bytes that came to it. -/
def unread (r : Reference) (w : Call.World) : Nat :=
  w.pipe.pending .caller + r.machine.incoming.length
    + (match r.machine.record with
      | some (_, content) => content.length
      | none => 0)

/-- How much is read at a time. -/
def readSize : Nat := 16384

/-! ### Handshakes -/

/-- Takes early data until there is no more to come, with at most `fuel` reads. -/
def takeEarly (r : Reference) (w : Call.World) :
    (fuel : Nat) → Option Progress × Reference × Call.World
  | 0 => (some .pending, r, w)
  | fuel + 1 =>
    match r.perform (Act.readEarly ServerAct.script readSize) w with
    | (.done (some data), r, w) => takeEarly { r with early := r.early ++ data } w fuel
    | (.done none, r, w) => (none, { r with takesEarly := false }, w)
    | (.failed f, r, w) => (some (if isRetry f then .pending else .failed), r, w)

/-- Goes on with the handshake. -/
def shakeHands (r : Reference) (w : Call.World) : Progress × Reference × Call.World :=
  match r.perform (Act.doHandshake ServerAct.script) w with
  | (.done (), r, w) => (.established, { r with isEstablished := true }, w)
  | (.failed f, r, w) => (if isRetry f then .pending else .failed, r, w)

/-- Takes early data if that is wanted, and goes on with the first handshake. -/
def step (r : Reference) (w : Call.World) : Progress × Reference × Call.World :=
  if r.isEstablished then (.established, r, w)
  else if r.takesEarly then
    match r.takeEarly w (r.unread w + 1) with
    | (some progress, r, w) => (progress, r, w)
    | (none, r, w) => r.shakeHands w
  else r.shakeHands w

/-! ### Data -/

/-- Reads on, with at most `fuel` reads. -/
def readOn (r : Reference) (w : Call.World) (sofar : Bytes) :
    (fuel : Nat) → Bytes × ReadEnd × Reference × Call.World
  | 0 => (sofar, .drained, r, w)
  | fuel + 1 =>
    match r.perform (Act.readData ServerAct.script readSize) w with
    | (.done data, r, w) => readOn r w (sofar ++ data) fuel
    | (.failed f, r, w) =>
      let reason := if f.code = ResultCode.wantRead then .drained
        else if f.code = ResultCode.closed then .closed
        else .failed
      (sofar, reason, r, w)

/-- Reads all that is there. -/
def readAll (r : Reference) (w : Call.World) : Bytes × ReadEnd × Reference × Call.World :=
  r.readOn w [] (r.unread w + 1)

/-- Whether a write that is held up is tried again with other data, although what is out of it is
there. -/
def changesHeldWrite (r : Reference) (data : Bytes) : Bool :=
  r.held.any (· ≠ data.length) && r.machine.written + r.machine.unsentTotal ≤ data.length

/-- The size of the write that is held up, if the last one is. -/
def heldAfter (m : Machine ServerPart) (data : Bytes) : Option Nat :=
  if m.unsentTotal > 0 && m.unsentType = .applicationData then some data.length else none

/-- Writes data. A write that is held up can only be tried again as it was. -/
def write (data : Bytes) (r : Reference) (w : Call.World) : WriteEnd × Reference × Call.World :=
  if r.changesHeldWrite data then (.failed, r, w)
  else
    match r.perform (Act.writeData ServerAct.script data) w with
    | (.done _, r, w) => (.written, { r with held := none }, w)
    | (.failed f, r, w) =>
      (if isRetry f then .full else .failed, { r with held := heldAfter r.machine data }, w)

/-- Closes the server's direction, or waits for the client to close its own. -/
def close (r : Reference) (w : Call.World) : Closing × Reference × Call.World :=
  match r.perform (Act.close ServerAct.script) w with
  | (.done both, r, w) => (if both then .complete else .sent, r, w)
  | (.failed f, r, w) => (if isRetry f then .pending else .failed, r, w)

/-! ### The rest -/

/-- What the server has learnt. -/
def facts (r : Reference) : ServerFacts :=
  let m := r.machine
  { serverName := m.own.serverName
    clientCertificate := m.own.clientCertificate?
    version := m.protocolVersion.name
    cipher := m.own.session.bind fun s => (Suite.ofId? s.suite).map (·.name)
    alpn := m.own.alpn
    reused := m.hit
    early := r.early
    established := r.isEstablished }

/-- Gives the server up. The session of a connection that was not closed is not kept. -/
def discard (r : Reference) : SessionStore :=
  let m := r.machine
  if !m.sentShutdown && !m.inInit && !m.isBefore then r.forget.store else r.store

end Reference

end SocketlessTls.Bench
