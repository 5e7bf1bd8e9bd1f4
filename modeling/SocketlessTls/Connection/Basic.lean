import SocketlessTls.Engine.Interface

/-!
# Connections

A connection runs one TLS client over the engine endpoint of a pipe. Every operation either
completes, or says which way the pipe must be pumped before calling again, or ends the connection,
or is refused – and a refused operation changes nothing.

An operation acts on a `SocketlessTls.Link`: the connection together with the pipe under it and the
session objects around it. The engine may be any `SocketlessTls.Engine`.

* `SocketlessTls.Link.drive` – runs one engine call and classifies its outcome; the only place
  where a connection comes to be in error;
* `SocketlessTls.Link.advanceHandshake`, `write`, `writeEarlyData`, `read`, `readInto`,
  `shutdown`, `renegotiate` – the operations. Reading says at once what it comes to; its steps are
  those of `SocketlessTls.Link.readStepwise`.
-/

namespace SocketlessTls

/-- Progress of closing a connection. -/
inductive ShutdownStatus where
  /-- Our closing alert is queued; pump the pipe and call again for the peer's. -/
  | sent
  /-- Both closing alerts have been exchanged. -/
  | complete
  deriving Repr, DecidableEq

/-- What became of early data. -/
inductive EarlyDataStatus where
  /-- No early data left the engine. -/
  | notSent
  | rejected
  | accepted
  deriving Repr, DecidableEq

namespace EarlyDataStatus

/-- The status that an engine's number stands for. -/
def ofRaw (n : Int) : EarlyDataStatus :=
  if n = 1 then rejected else if n = 2 then accepted else notSent

/-- The name of a status as a label. -/
def label : EarlyDataStatus → String
  | notSent => "NotSent"
  | rejected => "Rejected"
  | accepted => "Accepted"

end EarlyDataStatus

/-- The peer's certificates, its own first, as it presented them. -/
structure PeerChain where
  certificates : List X509.Certificate
  deriving Repr, DecidableEq

/-- Reads every certificate of a chain from its encoding. -/
def PeerChain.snapshot? (encodings : List Bytes) : Option PeerChain :=
  (encodings.mapM X509.Certificate.ofDer?).map fun certificates => ⟨certificates⟩

/-- What is fixed when a handshake completes. -/
structure Negotiated where
  version : ProtocolVersion
  cipher : Option Cipher
  chain : Option PeerChain
  deriving Repr, DecidableEq

/-- The engine of a connection. -/
inductive EngineSlot (σ : Type) where
  /-- Not started; the connection holds the endpoint for it. -/
  | idle
  | running (s : σ)
  /-- Starting failed halfway, and the endpoint is gone. -/
  | detached
  deriving Repr, DecidableEq

/-- A client connection. -/
structure Connection (σ : Type) where
  config : Config
  state : State
  engine : EngineSlot σ
  /-- How ciphers are remembered, fixed when the connection is made. -/
  captureMode : CaptureMode
  captured : Option Cipher
  info : Option Negotiated
  earlyDataWindow : Bool
  earlyDataSent : UInt32
  deriving Repr, DecidableEq

/-- Binds a configuration to an endpoint of a pipe. -/
def Connection.ofConfig {σ : Type} (config : Config) (side : Side) :
    Except TlsError (Connection σ) :=
  if side ≠ .engine then .error (.configuration .wrongEndpoint)
  else .ok {
    config
    state := .configured
    engine := .idle
    captureMode := config.captureMode
    captured := none
    info := none
    earlyDataWindow := true
    earlyDataSent := 0 }

namespace Connection

variable {σ : Type}

/-! ### Guards -/

/-- Refuses a connection that has ended. -/
def ensureLive (c : Connection σ) : Except TlsError Unit :=
  if c.state.isTerminal then .error (.alreadyTerminated c.state) else .ok ()

/-- Refuses a connection that has failed. -/
def ensureNotErrored (c : Connection σ) : Except TlsError Unit :=
  if c.state = .errored then .error (.alreadyTerminated c.state) else .ok ()

/-- The error of an operation that the present state does not admit. -/
def invalidState (c : Connection σ) (operation : String) : TlsError :=
  .invalidState operation c.state

/-- Refuses an operation in any state but the given ones. -/
def require (c : Connection σ) (operation : String) (allowed : List State) :
    Except TlsError Unit := do
  c.ensureLive
  if c.state ∈ allowed then .ok () else .error (c.invalidState operation)

/-- The configuration, to be changed; only before the handshake starts. -/
def configMut (c : Connection σ) : Except TlsError Config := do
  c.ensureLive
  if c.state = .configured then .ok c.config else .error (c.invalidState "config_mut")

/-- The connection with another configuration. -/
def withConfig (c : Connection σ) (config : Config) : Connection σ := { c with config }

/-- The connection after a look at its engine's cipher. -/
def observe (E : Engine σ) (s : σ) (c : Connection σ) : Connection σ :=
  match c.captureMode with
  | .perStep => { c with captured := remember c.captured (E.observedCipher s) }
  | .disabled => c

end Connection

/-- A connection with the pipe under it and the session objects around it. -/
structure Link (σ : Type) where
  connection : Connection σ
  pipe : Pipe
  objects : SessionObjects
  deriving Repr, DecidableEq

namespace Link

variable {σ α : Type}

/-- Whether the other end of the pipe is still there. -/
def transportStatus (p : Pipe) : TransportStatus :=
  if p.isSiblingReleased .engine then .released else .live

/-- The link with another state of its engine. -/
def withEngine (l : Link σ) (s : σ) (w : Call.World) : Link σ :=
  { connection := { l.connection with engine := .running s }, pipe := w.pipe, objects := w.objects }

/-- The link with its connection in another state. -/
def withState (l : Link σ) (state : State) : Link σ :=
  { l with connection := { l.connection with state } }

/-- Names the issuers that the engine has heard of. -/
def nameIssuers (E : Engine σ) (s : σ) : PollResult α → PollResult α
  | .error (.clientCertificateRequested _) =>
    .error (.clientCertificateRequested ((E.clientCaNames s).map X509.Name.oneLine))
  | result => result

/-- Runs one engine call and classifies its outcome. A fatal one puts the connection in error. -/
def drive (E : Engine σ) (operation : String) (call : σ → Call (RawOutcome α × σ)) (l : Link σ) :
    PollResult α × Link σ :=
  match l.connection.engine with
  | .running s =>
    let ((raw, s), w) := (call s).run .engine ⟨l.pipe, l.objects⟩
    let l := l.withEngine s w
    let l :=
      if l.connection.state = .handshaking then { l with connection := l.connection.observe E s }
      else l
    let result := nameIssuers E s (classify raw (transportStatus l.pipe))
    match result with
    | .error (.fatal _) => (result, l.withState .errored)
    | _ => (result, l)
  | _ => (.error (l.connection.invalidState operation), l)

/-- A private copy of the session to resume, if there is one. -/
def copySession? : Option Session → SessionObjects → Option (Option Session × SessionObjects)
  | none, o => some (none, o)
  | some s, o => (s.copy? o).map fun (copy, o) => (some copy, o)

/-- Starts the engine. Until the engine takes the endpoint nothing has changed. -/
def start (E : Engine σ) (l : Link σ) : Except TlsError Unit × Link σ :=
  match l.connection.engine with
  | .idle =>
    match E.build? l.connection.config with
    | none => (.error .engine, l)
    | some s =>
      match copySession? l.connection.config.session l.objects with
      | none => (.error .engine, l)
      | some (session, objects) =>
        match E.prepare? l.connection.config session s with
        | none => (.error .engine, l)
        | some s =>
          match E.attach? s with
          | none =>
            (.error .engine,
              { connection := { l.connection with engine := .detached }
                pipe := l.pipe.release .engine, objects })
          | some s =>
            (.ok (), { l with
              connection := { l.connection with engine := .running s, state := .handshaking }
              objects })
  | _ => (.error (l.connection.invalidState "start"), l)

/-- Records what the handshake settled. Nothing is recorded if the chain cannot be read. -/
def completeHandshake (E : Engine σ) (l : Link σ) : Except TlsError Unit × Link σ :=
  match l.connection.engine with
  | .running s =>
    let c := l.connection.observe E s
    let l := { l with connection := c }
    let cipher := c.captured.or (E.currentCipher s)
    match E.peerChain s with
    | none =>
      (.ok (), { l with connection := { c with
        info := some ⟨E.version s, cipher, none⟩, state := .established } })
    | some encodings =>
      match PeerChain.snapshot? encodings with
      | none => (.error .engine, l)
      | some chain =>
        (.ok (), { l with connection := { c with
          info := some ⟨E.version s, cipher, some chain⟩, state := .established } })
  | _ => (.error (l.connection.invalidState "advance_handshake"), l)

/-- Starts the engine if nothing has been started. -/
def startIfConfigured (E : Engine σ) (l : Link σ) : Except TlsError Unit × Link σ :=
  if l.connection.state = .configured then l.start E else (.ok (), l)

/-- Runs the handshake as far as the pipe allows; ready once the connection is established. -/
def advanceHandshake (E : Engine σ) (l : Link σ) : PollResult Unit × Link σ :=
  match l.connection.ensureLive with
  | .error e => (.error e, l)
  | .ok () =>
    if l.connection.state = .configured ∨ l.connection.state = .handshaking then
      match l.startIfConfigured E with
      | (.error e, l) => (.error e, l)
      | (.ok (), l) =>
        let l := { l with connection := { l.connection with earlyDataWindow := false } }
        match l.drive E "advance_handshake" E.handshake with
        | (.ok (.ready ()), l) =>
          match l.completeHandshake E with
          | (.error e, l) => (.error e, l)
          | (.ok (), l) => (.ok (.ready ()), l)
        | (result, l) => (result, l)
    else (.error (l.connection.invalidState "advance_handshake"), l)

/-- Encrypts application data; what is taken may be less than all of it. -/
def write (E : Engine σ) (data : Bytes) (l : Link σ) : PollResult Nat × Link σ :=
  match l.connection.require "write" [.established] with
  | .error e => (.error e, l)
  | .ok () =>
    if data.isEmpty then (.ok (.ready 0), l)
    else l.drive E "write" (E.write data)

/-- Whether early data may be written in the present state. -/
def admitsEarlyData (c : Connection σ) : Bool :=
  match c.state with
  | .configured => true
  | .handshaking => c.earlyDataWindow
  | _ => false

/-- How much early data the session to resume still allows. -/
def earlyDataBudget (c : Connection σ) : Nat :=
  (match c.config.session with
    | some s => s.maxEarlyData.toNat
    | none => 0) - c.earlyDataSent.toNat

/-- Sends data before the handshake is advanced, within the budget of the session to resume.
Without a budget nothing reaches the engine. -/
def writeEarlyData (E : Engine σ) (data : Bytes) (l : Link σ) : PollResult Nat × Link σ :=
  match l.connection.ensureLive with
  | .error e => (.error e, l)
  | .ok () =>
    if !admitsEarlyData l.connection then
      (.error (l.connection.invalidState "write_early_data"), l)
    else
      let budget := earlyDataBudget l.connection
      if budget = 0 ∨ data.isEmpty then (.ok (.ready 0), l)
      else
        match l.startIfConfigured E with
        | (.error e, l) => (.error e, l)
        | (.ok (), l) =>
          match l.drive E "write_early_data" (E.writeEarlyData (data.take budget)) with
          | (.ok (.ready n), l) =>
            let sent := l.connection.earlyDataSent + UInt32.ofNat n
            (.ok (.ready n), { l with connection := { l.connection with earlyDataSent := sent } })
          | (result, l) => (result, l)

/-- The states in which data may be read. -/
def readStates : List State := [.established, .shuttingDown]

/-- Decrypts data to the front of a buffer and tells how much it was. -/
def readInto (E : Engine σ) (buffer : Bytes) (l : Link σ) : PollResult Nat × Bytes × Link σ :=
  match l.connection.require "read" readStates with
  | .error e => (.error e, buffer, l)
  | .ok () =>
    if buffer.isEmpty then (.ok (.ready 0), buffer, l)
    else
      match l.drive E "read" (E.read buffer.length) with
      | (.ok (.ready data), l) =>
        (.ok (.ready data.length), (data ++ buffer.drop data.length).take buffer.length, l)
      | (.ok (.wouldBlock d), l) => (.ok (.wouldBlock d), buffer, l)
      | (.ok .peerClosed, l) => (.ok .peerClosed, buffer, l)
      | (.error e, l) => (.error e, buffer, l)

/-- The largest buffer that there can be. -/
def maxBuffer : Nat := (1 <<< 63) - 1

/-- Whether a buffer can be reserved. One without any room always can; any other has to be granted
by the owner of the memory, who may do so at one time and not at another. -/
def affords (max : Nat) (granted : Bool) : Bool := max = 0 || (granted && max ≤ maxBuffer)

/-- Decrypts at most `max` bytes, for which a buffer is granted or not. -/
def read (E : Engine σ) (max : Nat) (granted : Bool) (l : Link σ) : PollResult Bytes × Link σ :=
  match l.connection.require "read" readStates with
  | .error e => (.error e, l)
  | .ok () =>
    if !affords max granted then (.error .resourceExhausted, l)
    else if max = 0 then (.ok (.ready []), l)
    else l.drive E "read" (E.read max)

/-- Decrypts at most `max` bytes, step by step: a buffer is reserved and filled with zeros, data is
read into it, and what has not been read is cut off. -/
def readStepwise (E : Engine σ) (max : Nat) (granted : Bool) (l : Link σ) :
    PollResult Bytes × Link σ :=
  match l.connection.require "read" readStates with
  | .error e => (.error e, l)
  | .ok () =>
    if affords max granted then
      let (result, buffer, l) := l.readInto E (List.replicate max 0)
      (result.map (Poll.map fun n => buffer.take n), l)
    else (.error .resourceExhausted, l)

/-- Sends a closing alert and, on later calls, waits for the peer's. -/
def shutdown (E : Engine σ) (l : Link σ) : PollResult ShutdownStatus × Link σ :=
  match l.connection.state with
  | .closed => (.ok (.ready .complete), l)
  | .errored => (.error (.alreadyTerminated .errored), l)
  | .established | .shuttingDown =>
    match l.drive E "shutdown" E.shutdown with
    | (.ok (.ready .sent), l) => (.ok (.ready .sent), l.withState .shuttingDown)
    | (.ok (.ready .received), l) => (.ok (.ready .complete), l.withState .closed)
    | (.ok (.wouldBlock d), l) => (.ok (.wouldBlock d), l)
    | (.ok .peerClosed, l) => (.ok .peerClosed, l)
    | (.error e, l) => (.error e, l)
  | state => (.error (.invalidState "shutdown" state), l)

/-- Asks the peer for a new handshake, which is then to be advanced. An engine that refuses leaves
the connection as it was. -/
def renegotiate (E : Engine σ) (l : Link σ) : Except TlsError Unit × Link σ :=
  match l.connection.require "renegotiate" [.established] with
  | .error e => (.error e, l)
  | .ok () =>
    match l.connection.engine with
    | .running s =>
      match E.renegotiate s with
      | (false, s) =>
        (.error (.unsupported "renegotiate"),
          { l with connection := { l.connection with engine := .running s } })
      | (true, s) =>
        (.ok (), { l with connection := { l.connection with
          engine := .running s, captured := none, info := none, state := .handshaking } })
    | _ => (.error (l.connection.invalidState "renegotiate"), l)

/-- Gives the connection up, and with it its end of the pipe. -/
def discard (E : Engine σ) (l : Link σ) : Pipe × SessionObjects :=
  match l.connection.engine with
  | .running s =>
    let ((), w) := (E.discard s).run .engine ⟨l.pipe, l.objects⟩
    (w.pipe.release .engine, w.objects)
  | _ => (l.pipe.release .engine, l.objects)

end Link

end SocketlessTls
