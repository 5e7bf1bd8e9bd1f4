import SocketlessTls.Engine.Call
import SocketlessTls.Poll
import SocketlessTls.Transparent.Message
import SocketlessTls.Transparent.Record

/-!
# One end of a connection as a machine

Client and server are the same machine with different scripts. The machine holds the transport
(what is half read, half written, or gathered for a later write), the protection of each direction,
the place in the handshake, and what has been agreed on; the part of either role is a parameter.

What a machine does is an `SocketlessTls.Transparent.Act`: it may use the pipe, it changes the
machine, and it may halt before it is done. A machine that halted can be asked to go on, and does so
where it stopped; `SocketlessTls.Transparent.Machine.failure` tells why it halted.
-/

namespace SocketlessTls.Transparent

/-- Why an act halts before it is done. -/
inductive Halt where
  /-- The machine tells the cause. -/
  | stop
  /-- Application data came in the middle of a handshake and may be read instead. -/
  | applicationData
  deriving Repr, DecidableEq

/-- What a machine that halted is waiting for. -/
inductive Want where
  | nothing
  | reading
  | writing
  | certificate
  deriving Repr, DecidableEq

/-- What a handshake has written and not yet passed on, and how much of the room is used up by
what has been passed on. -/
structure SendBuffer where
  held : Bytes
  offset : Nat
  waits : Option Direction
  deriving Repr, DecidableEq

/-- An alert that is still to be sent. -/
inductive AlertState where
  | none
  /-- Not begun. -/
  | waiting (level description : UInt8)
  /-- Begun, and the rest of its record waits. -/
  | begun
  deriving Repr, DecidableEq

/-! ### The place in the handshake -/

/-- The last message, seen from the machine's own end. -/
inductive HandState where
  | before
  | sent (m : MessageType)
  | received (m : MessageType)
  /-- Early data may flow. -/
  | earlyData
  /-- The end of early data is to be decided. -/
  | pendingEarlyDataEnd
  | over
  deriving Repr, DecidableEq

/-- Reading a message: its header, its body, and work left after it. -/
inductive ReadStage where
  | header
  | body (size : Nat)
  | after
  deriving Repr, DecidableEq

/-- Writing a message: choosing it, work before it, sending it, and work after it. -/
inductive WriteStage where
  | choose
  | before
  | send (type : ContentType) (bytes : Bytes)
  | after
  deriving Repr, DecidableEq

/-- Where the flow of messages is. -/
inductive Flow where
  | fresh
  | reading (stage : ReadStage)
  | writing (stage : WriteStage)
  | finished
  | broken
  deriving Repr, DecidableEq

/-- How far sending or receiving early data has come. -/
inductive EarlyPhase where
  | none
  | connectRetry | connecting | writeRetry | writing | writeFlush | finishedWriting
  | acceptRetry | accepting | readRetry | reading | finishedReading
  deriving Repr, DecidableEq

/-- What was answered to an offer of early data. -/
inductive EarlyAnswer where
  | notSent
  | rejected
  | accepted
  deriving Repr, DecidableEq

/-- Whether the client was asked to greet again. -/
inductive RetryPhase where
  | none
  | pending
  | complete
  deriving Repr, DecidableEq

/-- Which end of a connection a machine is. -/
inductive Role where
  | client
  | server
  deriving Repr, DecidableEq

/-! ### The machine -/

/-- One end of a connection; `ρ` is what belongs to its role. -/
structure Machine (ρ : Type) where
  role : Role
  /-- What the last transfer on the pipe has to wait for. -/
  waits : Option Direction
  buffer : Option SendBuffer
  want : Want
  report : List Diagnostic
  ioKind : Option IoKind
  /-- The bytes so far of the record being read. -/
  incoming : Bytes
  isFirstRecord : Bool
  emptyRecords : Nat
  readSide : Protection
  plainAlerts : Bool
  /-- The rest of the last record read. -/
  record : Option (ContentType × Bytes)
  /-- The header of a handshake message that came where none was looked for. -/
  fragment : Bytes
  warnings : Nat
  lastWarning : UInt8
  writeSide : Protection
  /-- The rest of the last record written, and how much content it stands for. -/
  unsent : Bytes
  unsentTotal : Nat
  unsentType : ContentType
  /-- How much of a blocked write had been written in earlier records. -/
  written : Nat
  partialWrites : Bool
  alert : AlertState
  sentShutdown : Bool
  receivedShutdown : Bool
  flow : Flow
  hand : HandState
  inInit : Bool
  inHandshake : Bool
  /-- The header, and then the body, of the message being read, as far as it has come. -/
  gathered : Bytes
  message : MessageType
  /-- Work that was begun before or after a message and has to be taken up again. -/
  secondTry : Bool
  /-- Whether the keys of the peer have changed and only its last message may follow. -/
  changeSeen : Bool
  isFirstHandshake : Bool
  /-- Whether the last messages have been exchanged and the handshake is to be wound up. -/
  windsUp : Bool
  version : Option Version
  /-- The suite chosen in the handshake under way. -/
  suite : Option Suite
  hit : Bool
  retry : RetryPhase
  early : EarlyPhase
  earlyAnswer : EarlyAnswer
  earlyLimit : Nat
  earlyCount : Nat
  /-- Whether application data may be read in place of handshake messages. -/
  readingData : Bool
  renegotiations : Nat
  /-- Whether a new handshake has been asked for, and whether one is under way. -/
  renegotiationDue : Bool
  renegotiating : Bool
  encryptThenMac : Bool
  /-- Whether the session must not be resumed any more. -/
  spoilt : Bool
  own : ρ

/-- What a machine does. -/
abbrev Act (ρ : Type) := ExceptT Halt (StateT (Machine ρ) Call)

namespace Machine

variable {ρ : Type}

/-- A machine before its first handshake. -/
def initial (role : Role) (partialWrites : Bool) (own : ρ) : Machine ρ where
  role := role
  waits := none
  buffer := none
  want := .nothing
  report := []
  ioKind := none
  incoming := []
  isFirstRecord := true
  emptyRecords := 0
  readSide := .clear
  plainAlerts := false
  record := none
  fragment := []
  warnings := 0
  lastWarning := 0
  writeSide := .clear
  unsent := []
  unsentTotal := 0
  unsentType := .handshake
  written := 0
  partialWrites := partialWrites
  alert := .none
  sentShutdown := false
  receivedShutdown := false
  flow := .fresh
  hand := .before
  inInit := true
  inHandshake := false
  gathered := []
  message := .helloRequest
  secondTry := false
  changeSeen := false
  isFirstHandshake := true
  windsUp := false
  version := none
  suite := none
  hit := false
  retry := .none
  early := .none
  earlyAnswer := .notSent
  earlyLimit := 0
  earlyCount := 0
  readingData := false
  renegotiations := 0
  renegotiationDue := false
  renegotiating := false
  encryptThenMac := false
  spoilt := false
  own := own

/-- Whether TLS 1.3 has been agreed on. -/
def isModern (m : Machine ρ) : Bool := m.version = some .tls13

/-- Whether nothing has happened yet. -/
def isBefore (m : Machine ρ) : Bool := m.hand = .before && m.flow = .fresh

/-- Whether part of a record has been read. -/
def hasIncoming (m : Machine ρ) : Bool := !m.incoming.isEmpty

/-- The version in the header of the next record. -/
def recordVersion (m : Machine ρ) : UInt16 :=
  match m.version with
  | some .tls13 => 0x0303
  | some v => v.wire
  | none =>
    if m.role = .client && m.hand = .sent .clientHello && m.retry = .none then 0x0301 else 0x0303

/-- What the next call to the pipe has to wait for, as the writing side knows it. -/
def writeWaits (m : Machine ρ) : Option Direction :=
  match m.buffer with
  | some b => b.waits
  | none => m.waits

/-- The result code of a direction. -/
def waitCode : Direction → Int32
  | .read => ResultCode.wantRead
  | .write => ResultCode.wantWrite

/-- Why a machine halted. -/
def failure (m : Machine ρ) : EngineFailure :=
  let otherwise :=
    if m.receivedShutdown && m.lastWarning = AlertCode.closeNotify then ResultCode.closed
    else ResultCode.transport
  let code := match m.report with
    | d :: _ => if Reason.isSystem d then ResultCode.transport else ResultCode.protocol
    | [] =>
      match m.want with
      | .reading => (m.waits.map waitCode).getD otherwise
      | .writing => (m.writeWaits.map waitCode).getD otherwise
      | .certificate => ResultCode.wantCertificate
      | .nothing => otherwise
  ⟨code, m.ioKind, m.report⟩

end Machine

namespace Act

variable {ρ : Type}

/-! ### Halting -/

/-- Halts. -/
def halt {α : Type} : Act ρ α := throw .stop

/-- Sets what the machine waits for. -/
def setWant (w : Want) : Act ρ Unit := modify fun m => { m with want := w }

/-- Adds to the report of the present call. -/
def note (d : Diagnostic) : Act ρ Unit := modify fun m => { m with report := m.report ++ [d] }

/-! ### Writing to the pipe -/

/-- What becomes of bytes that are to be written. -/
inductive Sent where
  | all
  | retry
  | failed
  deriving Repr, DecidableEq

/-- Writes to the pipe what fits: how much that was, or none. -/
def writePipe (data : Bytes) : Act ρ (Except Sent Nat) := do
  match ← (Call.write data .done : Call _) with
  | .ok n =>
    modify fun m => { m with waits := none }
    return .ok n
  | .error e =>
    if e.kind = .wouldBlock then
      modify fun m => { m with waits := some .write }
      return .error .retry
    else
      modify fun m => { m with waits := none, ioKind := some e.kind }
      return .error .failed

/-- The room of the buffer that a handshake writes to. -/
def bufferRoom : Nat := 4096

/-- Sets what is in the buffer. -/
def setBuffer (b : SendBuffer) : Act ρ Unit := modify fun m => { m with buffer := some b }

/-- Passes on what the buffer holds, with at most `fuel` writes. -/
def drainBuffer : (fuel : Nat) → Act ρ Sent
  | 0 => return .all
  | fuel + 1 => do
    match (← get).buffer with
    | none => return .all
    | some b =>
      if b.held.isEmpty then
        setBuffer ⟨[], 0, none⟩
        return .all
      else
        match ← writePipe b.held with
        | .ok n =>
          setBuffer ⟨b.held.drop n, b.offset + n, none⟩
          drainBuffer fuel
        | .error e =>
          setBuffer { b with waits := (← get).waits }
          return e

/-- Writes straight to the pipe as long as there is a bufferful left: what is left in the end, or
why it stopped and what is left then. -/
def writeThrough (data : Bytes) : (fuel : Nat) → Act ρ (Option Sent × Bytes)
  | 0 => return (none, data)
  | fuel + 1 => do
    if data.length < bufferRoom then return (none, data)
    match ← writePipe data with
    | .ok n => writeThrough (data.drop n) fuel
    | .error e =>
      setBuffer ⟨[], 0, (← get).waits⟩
      return (some e, data)

/-- Adds to the buffer. What does not fit makes it pass on all it holds first, and what is as large
as the buffer goes past it. Tells how much was taken; a failure counts only if that is nothing. -/
def writeBuffered (b : SendBuffer) (data : Bytes) : Act ρ (Except Sent Nat) := do
  let room := bufferRoom - (b.offset + b.held.length)
  if data.length ≤ room then
    setBuffer { b with held := b.held ++ data, waits := none }
    return .ok data.length
  else
    let first := if b.held.isEmpty then 0 else room
    setBuffer { b with held := b.held ++ data.take first, waits := none }
    let outcome (e : Sent) (taken : Nat) : Except Sent Nat :=
      if taken = 0 then .error e else .ok taken
    match ← drainBuffer (b.held.length + first + 1) with
    | .all =>
      let rest := data.drop first
      match ← writeThrough rest rest.length with
      | (none, left) =>
        setBuffer ⟨left, 0, none⟩
        return .ok data.length
      | (some e, left) => return outcome e (data.length - left.length)
    | e => return outcome e first

/-- Writes to the buffer if there is one, and else to the pipe. -/
def writeOut (data : Bytes) : Act ρ (Except Sent Nat) := do
  match (← get).buffer with
  | some b => writeBuffered b data
  | none => writePipe data

/-- Writes the rest of a record, with at most `fuel` writes. -/
def pushUnsent : (fuel : Nat) → Act ρ Sent
  | 0 => return .all
  | fuel + 1 => do
    let data := (← get).unsent
    if data.isEmpty then return .all
    else
      match ← writeOut data with
      | .ok n =>
        modify fun m => { m with unsent := m.unsent.drop n }
        pushUnsent fuel
      | .error .retry => return .retry
      | .error e =>
        note Reason.systemDiagnostic
        return e

/-- Writes the rest of a record, and sets what the machine waits for. -/
def resumeRecord : Act ρ Sent := do
  let sent ← pushUnsent ((← get).unsent.length + 1)
  setWant (if sent = .retry then .writing else .nothing)
  return sent

/-- Writes a record. -/
def writeRecord (type : ContentType) (content : Bytes) : Act ρ Sent := do
  modify fun m => { m with unsent := m.writeSide.recordBytes m.recordVersion type content }
  resumeRecord

/-- Passes on what the buffer holds, and halts if that is not possible. -/
def flush : Act ρ Unit := do
  setWant .writing
  match ← drainBuffer (bufferRoom + 1) with
  | .all => setWant .nothing
  | _ => halt

/-! ### Alerts -/

/-- Sends the alert that waits, or what is left of it; tells whether it is gone. An alert that would
cut into a record of another kind is given up. -/
def dispatchAlert : Act ρ Bool := do
  let m ← get
  if m.unsentTotal > 0 then
    if m.alert ≠ .begun then
      modify fun m => { m with alert := .none }
      return false
    else
      match ← resumeRecord with
      | .all =>
        modify fun m => { m with unsentTotal := 0, alert := .none }
        return true
      | _ => return false
  else
    match m.alert with
    | .waiting level description =>
      match ← writeRecord .alert [level, description] with
      | .all =>
        let _ ← drainBuffer (bufferRoom + 1)
        modify fun m => { m with alert := .none }
        return true
      | _ =>
        modify fun m => { m with alert := .begun, unsentTotal := 2, unsentType := .alert }
        return false
    | _ => return true

/-- The alert that a version has for a description that only newer ones know. -/
def alertIn (modern : Bool) (description : UInt8) : UInt8 :=
  if !modern && (description = AlertCode.missingExtension
      || description = AlertCode.certificateRequired) then
    AlertCode.handshakeFailure
  else description

/-- Sends an alert; nothing but a closing alert follows a closing alert. A fatal one spoils the
session. -/
def sendAlert (fatal : Bool) (description : UInt8) : Act ρ Unit := do
  let m ← get
  let description := alertIn m.isModern description
  if m.sentShutdown && description ≠ AlertCode.closeNotify then return
  if fatal then modify fun m => { m with spoilt := true }
  modify fun m => { m with alert := .waiting (if fatal then 2 else 1) description }
  if m.unsentTotal = 0 then let _ ← dispatchAlert

/-- Ends the handshake for good, with an alert if there is one to send. -/
def breakOff (alert : Option UInt8) : Act ρ Unit := do
  let m ← get
  if m.inInit && m.flow = .broken then return
  modify fun m => { m with inInit := true, flow := .broken }
  match alert with
  | some description => sendAlert true description
  | none => return

/-- Fails for a reason, with an alert if there is one to send. -/
def fail {α : Type} (alert : Option UInt8) (r : Reason) : Act ρ α := do
  note r.diagnostic
  breakOff alert
  halt

/-- Fails for a reason with an alert. -/
def failWith {α : Type} (alert : UInt8) (r : Reason) : Act ρ α := fail (some alert) r

/-- Fails because of a record; without an alert the handshake is left as it was. -/
def failRecord {α : Type} (f : RecordFault) : Act ρ α := do
  note f.reason.diagnostic
  setWant .nothing
  match f.alert with
  | some alert => failWith alert .recordLayerFailure
  | none => halt

/-- The value, or a failure for want of one. -/
def orFail {α : Type} (x : Option α) (alert : UInt8) (r : Reason) : Act ρ α :=
  match x with
  | some a => return a
  | none => failWith alert r

end Act

end SocketlessTls.Transparent
