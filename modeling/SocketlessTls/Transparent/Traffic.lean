import SocketlessTls.Transparent.Machine

/-!
# Traffic

Content of three kinds travels in records: handshake messages, application data and alerts. Asked
for content of one kind, a machine deals with the others on the way: it obeys alerts, drops what
may be dropped, and fails on what has no place.

* `SocketlessTls.Transparent.Act.readRecord` – the next record;
* `SocketlessTls.Transparent.Act.readContent` – the next content of a kind;
* `SocketlessTls.Transparent.Act.writeContent` – content in as many records as it takes.

Loops over records have a bound that no pipe comes near; every round takes a record off the pipe.
-/

namespace SocketlessTls.Transparent

/-- A bound on the records that one act deals with. -/
def recordBound : Nat := 100000

/-- The most empty records in a row. -/
def maxEmptyRecords : Nat := 32

/-- The most warnings in a row, and one. -/
def warningBound : Nat := 5

/-- What protection may add to skipped records of early data. -/
def skippedOverhead : Nat := 104

namespace Machine

variable {ρ : Type}

/-- How versions in headers are checked. -/
def headerRule (m : Machine ρ) : HeaderRule :=
  match m.version with
  | none => .anyVersion
  | some .tls13 => .exactly 0x0303
  | some v => .exactly v.wire

/-- Whether records that do not open are early data to be skipped. -/
def skipsEarlyData (m : Machine ρ) : Bool :=
  m.role = .server && m.earlyAnswer = .rejected && m.hand = .earlyData && m.retry ≠ .complete

/-- Whether application data may come before the handshake under way has got anywhere. -/
def admitsData (m : Machine ρ) : Bool :=
  m.flow ≠ .fresh && m.readingData && m.renegotiations > 0
    && match m.role with
      | .server => m.hand = .before || m.hand = .received .clientHello
      | .client => m.hand = .sent .clientHello

/-- Whether the notice of changed ciphers is dropped, as TLS 1.3 has no use for it. -/
def dropsChangeNotice (m : Machine ρ) : Bool :=
  m.isFirstHandshake && (m.isModern || m.retry ≠ .none)

/-- What is wrong with a header in the machine's present state. -/
def headingFault? (m : Machine ρ) (h : Heading) : Option RecordFault :=
  match m.readSide with
  | .clear => h.clearFault? m.incoming m.headerRule m.isFirstRecord
  | .sealed _ shape =>
    h.sealedFault? shape ((m.version.map Version.wire).getD 0) m.plainAlerts m.isFirstHandshake

end Machine

namespace Act

variable {ρ : Type}

/-! ### Reading records -/

/-- Reads until the record under way has so many bytes, with at most `fuel` reads. -/
def fillTo (size : Nat) : (fuel : Nat) → Act ρ Unit
  | 0 => halt
  | fuel + 1 => do
    let got := (← get).incoming.length
    if size ≤ got then return
    else
      match ← (Call.read (size - got) .done : Call _) with
      | .ok bytes =>
        modify fun m => { m with waits := none, incoming := m.incoming ++ bytes }
        fillTo size fuel
      | .error e =>
        if e.kind = .wouldBlock then
          modify fun m => { m with waits := some .read, want := .reading }
        else
          modify fun m => { m with waits := none, want := .nothing, ioKind := some e.kind }
        halt

/-- Counts early data against its limit. -/
def countEarly (length overhead : Nat) : Act ρ Unit := do
  let m ← get
  let alert :=
    if m.role = .client then AlertCode.internalError else AlertCode.unexpectedMessage
  if m.earlyLimit = 0 || m.earlyCount + length > m.earlyLimit + overhead then
    failWith alert .tooMuchEarlyData
  else modify fun m => { m with earlyCount := m.earlyCount + length }

/-- Takes note of a record's content; only so many empty ones may follow each other. -/
def acceptRecord (type : ContentType) (content : Bytes) : Act ρ (ContentType × Bytes) := do
  let m ← get
  let count := if content.isEmpty then m.emptyRecords + 1 else 0
  modify fun m => { m with emptyRecords := count }
  if count > maxEmptyRecords then
    failRecord ⟨some AlertCode.unexpectedMessage, .recordTooSmall⟩
  else return (type, content)

/-- The kinds of content that TLS 1.3 protects. -/
def modernTypes : List ContentType := [.alert, .handshake, .applicationData]

/-- Reads the next record that counts. -/
def readRecord : (fuel : Nat) → Act ρ (ContentType × Bytes)
  | 0 => halt
  | fuel + 1 => do
    fillTo headerSize (headerSize + 1)
    let m ← get
    match Heading.cut.run m.incoming with
    | none => halt
    | some (h, _) =>
      if let some fault := m.headingFault? h then failRecord fault
      fillTo (headerSize + h.length) (headerSize + h.length + 1)
      let m ← get
      let body := m.incoming.drop headerSize
      modify fun m => { m with incoming := [], isFirstRecord := false }
      let dropChange : Act ρ Unit :=
        if body = [1] then return
        else failRecord ⟨some AlertCode.illegalParameter, .invalidCcsMessage⟩
      match m.readSide with
      | .clear =>
        if h.type = .changeCipherSpec && m.dropsChangeNotice then
          dropChange
          readRecord fuel
        else acceptRecord h.type body
      | .sealed epoch shape =>
        if m.isModern && h.type = .changeCipherSpec then
          dropChange
          readRecord fuel
        else if m.isModern && h.type = .alert then acceptRecord h.type body
        else
          match Protection.open? epoch shape h.type body with
          | none =>
            if m.skipsEarlyData then
              countEarly body.length skippedOverhead
              readRecord fuel
            else failRecord ⟨some AlertCode.badRecordMac, .badRecordMac⟩
          | some (type, content) =>
            modify fun m => { m with plainAlerts := false }
            if content.length > maxPlain then
              failRecord ⟨some AlertCode.recordOverflow, .dataLengthTooLong⟩
            if m.isModern && !modernTypes.contains type then
              failRecord ⟨some AlertCode.unexpectedMessage, .badRecordType⟩
            if epoch = .early && type = .applicationData then countEarly content.length 0
            acceptRecord type content

/-! ### Reading content -/

/-- Keeps what is left of the last record. -/
def keepRest (type : ContentType) (rest : Bytes) : Act ρ Unit :=
  modify fun m => { m with record := if rest.isEmpty then none else some (type, rest) }

/-- Drops the last record. -/
def dropRecord : Act ρ Unit := modify fun m => { m with record := none }

/-- The last record, or else the next one. -/
def currentRecord : Act ρ (ContentType × Bytes) := do
  match (← get).record with
  | some record => return record
  | none =>
    let record ← readRecord recordBound
    setWant .nothing
    modify fun m => { m with record := some record }
    return record

/-- Obeys an alert; returns if it may be passed over. -/
def obeyAlert (content : Bytes) : Act ρ Unit := do
  let m ← get
  match content with
  | [level, description] =>
    let isWarning := level = 1
    let skipped := m.isModern && description = AlertCode.userCancelled
    if (isWarning && !m.isModern) || skipped then
      modify fun m => { m with lastWarning := description, warnings := m.warnings + 1 }
      dropRecord
      if m.warnings + 1 = warningBound then
        failWith AlertCode.unexpectedMessage .tooManyWarnAlerts
    if skipped then return
    else if description = AlertCode.closeNotify && (m.isModern || isWarning) then
      modify fun m => { m with receivedShutdown := true }
      halt
    else if level = 2 || m.isModern then
      setWant .nothing
      note (Reason.ofAlert description).diagnostic
      breakOff none
      modify fun m => { m with receivedShutdown := true, spoilt := true }
      dropRecord
      halt
    else if isWarning && description = AlertCode.noRenegotiation then
      failWith AlertCode.handshakeFailure .noRenegotiation
    else if isWarning then return
    else failWith AlertCode.illegalParameter .unknownAlertType
  | _ => failWith AlertCode.unexpectedMessage .invalidAlert

/-- Gathers the header of a message that came where none was looked for; tells whether it is
complete. -/
def gatherFragment (content : Bytes) : Act ρ Bool := do
  let n := min (4 - (← get).fragment.length) content.length
  modify fun m => { m with fragment := m.fragment ++ content.take n }
  keepRest .handshake (content.drop n)
  return (← get).fragment.length ≥ 4

/-- Reads content of a kind, at most so much of it. While messages are looked for, a notice of
changed ciphers is content too. A message that comes instead of application data is given to
`handshake`. -/
def readLoop (handshake : Act ρ Unit) (wanted : Option ContentType) (max : Nat) :
    (fuel : Nat) → Act ρ (ContentType × Bytes)
  | 0 => halt
  | fuel + 1 => do
    setWant .nothing
    let (type, content) ← currentRecord
    let m ← get
    if !m.fragment.isEmpty && type ≠ .handshake && m.isModern then
      failWith AlertCode.unexpectedMessage .mixedHandshakeData
    if type ≠ .alert && !content.isEmpty then modify fun m => { m with warnings := 0 }
    if m.changeSeen && type ≠ .handshake then
      failWith AlertCode.unexpectedMessage .dataBetweenCcsAndFinished
    if m.receivedShutdown then
      dropRecord
      halt
    let noticeWanted := wanted = some .handshake && type = .changeCipherSpec && !m.isModern
    if wanted = some type || noticeWanted then
      if m.inInit && type = .applicationData && m.readSide = .clear then
        failWith AlertCode.unexpectedMessage .appDataInHandshake
      if noticeWanted && !m.fragment.isEmpty then
        failWith AlertCode.unexpectedMessage .ccsReceivedEarly
      keepRest type (content.drop max)
      if content.isEmpty then readLoop handshake wanted max fuel
      else return (type, content.take max)
    else if m.version = none && (m.role = .server || type ≠ .alert) then
      failWith AlertCode.unexpectedMessage .unexpectedMessage
    else if type = .alert then
      obeyAlert content
      dropRecord
      readLoop handshake wanted max fuel
    else if m.sentShutdown && (type ≠ .handshake || !m.isModern) then
      dropRecord
      if type = .handshake then readLoop handshake wanted max fuel
      else fail none .applicationDataAfterCloseNotify
    else if type = .handshake then
      if ← gatherFragment content then
        let wasReadingEarly := m.early = .reading
        modify fun m => { m with inInit := true }
        handshake
        if wasReadingEarly then halt
      readLoop handshake wanted max fuel
    else if type = .changeCipherSpec then
      failWith AlertCode.unexpectedMessage .ccsReceivedEarly
    else if type = .applicationData && m.admitsData then throw .applicationData
    else if type = .applicationData && m.skipsEarlyData then
      countEarly content.length skippedOverhead
      dropRecord
      readLoop handshake wanted max fuel
    else failWith AlertCode.unexpectedMessage .unexpectedRecord

/-- Reads content of a kind, at most so much of it. A handshake that is not over comes first. -/
def readContent (handshake : Act ρ Unit) (wanted : Option ContentType) (max : Nat) :
    Act ρ (ContentType × Bytes) := do
  let m ← get
  if wanted = some .handshake && !m.fragment.isEmpty then
    modify fun m => { m with fragment := m.fragment.drop max }
    return (.handshake, m.fragment.take max)
  if !m.inHandshake && m.inInit then handshake
  readLoop handshake wanted max recordBound

/-- Reads handshake content as part of a handshake. -/
def readHandshake (max : Nat) : Act ρ (ContentType × Bytes) := do
  try readContent halt (some .handshake) max
  catch e =>
    setWant .reading
    throw e

/-! ### Writing content -/

/-- Fails if part of a blocked write is left out when it is tried again. -/
def checkRetryLength (length : Nat) : Act ρ Unit := do
  let m ← get
  if length < m.written || (m.unsentTotal ≠ 0 && length < m.written + m.unsentTotal) then
    failWith AlertCode.internalError .badLength

/-- Finishes the record that was begun after `done` bytes of the content, and tells how much of it
is out then. -/
def finishRecord (type : ContentType) (done : Nat) : Act ρ Nat := do
  let m ← get
  if m.unsentTotal = 0 then return done
  else if m.unsentType ≠ type then
    note Reason.badWriteRetry.diagnostic
    modify fun m => { m with written := done }
    halt
  else
    match ← resumeRecord with
    | .all =>
      modify fun m => { m with unsentTotal := 0 }
      return done + m.unsentTotal
    | _ =>
      modify fun m => { m with written := done }
      halt

/-- Writes content in records, from a place in it on. -/
def writeFrom (type : ContentType) (content : Bytes) (done : Nat) : (fuel : Nat) → Act ρ Nat
  | 0 => halt
  | fuel + 1 => do
    let piece := (content.drop done).take maxPlain
    match ← writeRecord type piece with
    | .all =>
      let done := done + piece.length
      if done ≥ content.length || (type = .applicationData && (← get).partialWrites) then
        return done
      else writeFrom type content done fuel
    | _ =>
      modify fun m =>
        { m with unsentTotal := piece.length, unsentType := type, written := done }
      halt

/-- Writes content and tells how much of it is out. A write that halted must be tried again with the
same content, or at least as much. A handshake that is not over comes first. -/
def writeContent (handshake : Act ρ Unit) (type : ContentType) (content : Bytes) : Act ρ Nat := do
  setWant .nothing
  checkRetryLength content.length
  if (← get).early = .writing then countEarly content.length 0
  let done := (← get).written
  modify fun m => { m with written := 0 }
  if (← get).inInit && !(← get).inHandshake then handshake
  let done ← finishRecord type done
  if done = content.length then return done
  else
    if (← get).alert ≠ .none then
      if !(← dispatchAlert) then halt
    writeFrom type content done (content.length + 1)

end Act

end SocketlessTls.Transparent
