import SocketlessTls.Error

/-!
# Outcomes of engine calls

Every engine call ends in one of four ways from the caller's point of view: it completed, it needs
the pipe pumped in one direction, the peer closed in order, or the connection is dead.
`SocketlessTls.classify` maps a raw outcome onto exactly one of these; a deferred client
certificate is the one error on top that is not fatal.
-/

namespace SocketlessTls

/-- Which way the pipe must move before a retry. -/
inductive Direction where
  /-- Feed bytes from the network into the caller endpoint. -/
  | read
  /-- Drain the caller endpoint to the network. -/
  | write
  deriving Repr, DecidableEq

/-- The outcome of an operation that does not block. -/
inductive Poll (α : Type) where
  | ready (value : α)
  /-- Pump the pipe in the given direction and call again. -/
  | wouldBlock (direction : Direction)
  /-- The peer sent its closing alert. -/
  | peerClosed
  deriving Repr, DecidableEq

namespace Poll

variable {α β : Type}

/-- Whether the operation completed. -/
def isReady : Poll α → Bool
  | ready _ => true
  | _ => false

/-- The same outcome with its value changed. -/
def map (f : α → β) : Poll α → Poll β
  | ready value => ready (f value)
  | wouldBlock direction => wouldBlock direction
  | peerClosed => peerClosed

/-- The value, if there is one. -/
def ready? : Poll α → Option α
  | ready value => some value
  | _ => none

end Poll

/-- The result of a connection operation. -/
abbrev PollResult (α : Type) := Except TlsError (Poll α)

/-- Whether the other end of the pipe under an engine is still there. -/
inductive TransportStatus where
  | live
  | released
  deriving Repr, DecidableEq

/-! ### Result codes -/

namespace ResultCode

/-- The engine refused the peer. -/
def protocol : Int32 := 1

/-- The engine needs more bytes. -/
def wantRead : Int32 := 2

/-- The engine needs room for bytes. -/
def wantWrite : Int32 := 3

/-- The engine was asked for a client certificate and told to wait for one. -/
def wantCertificate : Int32 := 4

/-- The transport failed. -/
def transport : Int32 := 5

/-- The peer sent its closing alert. -/
def closed : Int32 := 6

end ResultCode

/-- What the engine reported for a call that failed. -/
structure EngineFailure where
  code : Int32
  ioKind : Option IoKind
  diagnostics : List Diagnostic
  deriving Repr, DecidableEq

/-- The outcome of an engine call before it is classified. -/
inductive RawOutcome (α : Type) where
  | done (value : α)
  | failed (failure : EngineFailure)
  deriving Repr, DecidableEq

/-- The same raw outcome with its value changed. -/
def RawOutcome.map {α β : Type} (f : α → β) : RawOutcome α → RawOutcome β
  | done value => done (f value)
  | failed failure => failed failure

/-! ### Classification -/

/-- A fatal error with the report of a failure. -/
def EngineFailure.fatal (f : EngineFailure) (reason : FatalReason) : TlsError :=
  .fatal ⟨reason, f.diagnostics⟩

/-- What a raw outcome means. The rules apply in order: success, a peer that closed, a released
transport, a retry, a deferred client certificate, a transport error, the end of the stream, a
refusal by the engine, and any other code. The issuers of a deferred client certificate are left
to the caller, who holds the engine. -/
def classify {α : Type} (raw : RawOutcome α) (transport : TransportStatus) : PollResult α :=
  match raw with
  | .done value => .ok (.ready value)
  | .failed f =>
    if f.code = ResultCode.closed then .ok .peerClosed
    else if transport = .released then .error (f.fatal .transportClosed)
    else if f.code = ResultCode.wantRead then .ok (.wouldBlock .read)
    else if f.code = ResultCode.wantWrite then .ok (.wouldBlock .write)
    else if f.code = ResultCode.wantCertificate then .error (.clientCertificateRequested [])
    else if f.code = ResultCode.transport then
      match f.ioKind with
      | some kind => .error (f.fatal (.io kind))
      | none => .error (f.fatal .unexpectedEof)
    else if f.code = ResultCode.protocol then .error (f.fatal .protocol)
    else .error (f.fatal (.internal f.code))

end SocketlessTls
