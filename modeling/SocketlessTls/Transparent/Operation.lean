import SocketlessTls.Transparent.Flow

/-!
# What is asked of a machine

Whoever holds a machine asks it to go on with its handshake, to read or write data, to send or take
early data, and to close. A machine that is in the middle of a handshake does that first.

* `SocketlessTls.Transparent.Act.perform` – runs an act as one call;
* `SocketlessTls.Transparent.Act.doHandshake`, `readData`, `writeData`, `writeEarly`, `readEarly`,
  `close` – what is asked.
-/

namespace SocketlessTls.Transparent

namespace Act

variable {ρ α : Type}

/-- Runs an act as one call: what it yields, or why it halted. -/
def perform (a : Act ρ α) (m : Machine ρ) : Call (RawOutcome α × Machine ρ) := do
  let (result, m) ← (ExceptT.run a).run { m with report := [], ioKind := none }
  match result with
  | .ok value => return (.done value, m)
  | .error _ => return (.failed m.failure, m)

/-! ### Going into a handshake -/

/-- Takes up a handshake that was left for early data. -/
def enterInit : Act ρ Unit := modify fun m => { m with inInit := true }

/-- No more early data is written once the handshake goes on. -/
def endEarlyWriting : Act ρ Unit :=
  modify fun m => if m.early = .writeRetry then { m with early := .finishedWriting } else m

/-- Whether the handshake waits for early data to end. -/
def isPaused (m : Machine ρ) : Bool := m.hand = .pendingEarlyDataEnd || m.hand = .earlyData

/-- Goes on with a handshake that was left for early data, before something is written. -/
def resumeToWrite : Act ρ Unit := do
  let m ← get
  match m.role with
  | .client =>
    if isPaused m && m.early ≠ .writing then
      enterInit
      endEarlyWriting
  | .server =>
    if m.early = .finishedReading && m.hand = .earlyData then enterInit

/-- Goes on with a handshake that was left for early data, before something is read. -/
def resumeToRead : Act ρ Unit := do
  let m ← get
  match m.role with
  | .client => if m.hand = .earlyData then enterInit
  | .server => if m.early = .finishedReading && m.hand = .earlyData then enterInit

/-- Begins a new handshake if one is due and no record is half read or half written. -/
def beginDueHandshake : Act ρ Unit := do
  let m ← get
  if m.renegotiationDue && !m.hasIncoming && m.unsentTotal = 0 && !m.inInit then
    modify fun m =>
      { m with
        inInit := true
        renegotiationDue := false
        renegotiations := m.renegotiations + 1 }

/-- Goes on with the handshake, if there is one. -/
def doHandshake (s : Script ρ) : Act ρ Unit := do
  if isPaused (← get) then
    enterInit
    endEarlyWriting
  beginDueHandshake
  if (← get).inInit || (← get).isBefore then handshake s

/-! ### Data -/

/-- Halts because of something that makes no sense now. -/
def refuse (r : Reason) : Act ρ α := do
  note r.diagnostic
  halt

/-- Writes data, and tells how much of it is out. -/
def writeData (s : Script ρ) (data : Bytes) : Act ρ Nat := do
  let m ← get
  if m.sentShutdown then
    setWant .nothing
    refuse .protocolIsShutdown
  if m.early = .connectRetry || m.early = .acceptRetry || m.early = .readRetry then
    refuse .shouldNotHaveBeenCalled
  resumeToWrite
  beginDueHandshake
  writeContent (handshake s) .applicationData data

/-- Reads application data; if some came in the middle of a handshake, it is read instead. -/
def readContentOrData (s : Script ρ) (max : Nat) : Act ρ Bytes := do
  modify fun m => { m with readingData := true }
  try
    let (_, data) ← readContent (handshake s) (some .applicationData) max
    modify fun m => { m with readingData := false }
    return data
  catch
    | .applicationData =>
      modify fun m => { m with inHandshake := true }
      try
        let (_, data) ← readContent (handshake s) (some .applicationData) max
        modify fun m => { m with inHandshake := false }
        return data
      catch e =>
        modify fun m => { m with inHandshake := false }
        throw e
    | .stop =>
      modify fun m => { m with readingData := false }
      throw .stop

/-- Reads at most so much data. -/
def readData (s : Script ρ) (max : Nat) : Act ρ Bytes := do
  let m ← get
  if m.receivedShutdown then
    setWant .nothing
    halt
  if m.early = .connectRetry || m.early = .acceptRetry then refuse .shouldNotHaveBeenCalled
  resumeToRead
  beginDueHandshake
  readContentOrData s max

/-! ### Early data -/

/-- Moves the phase of early data. -/
def setEarly (p : EarlyPhase) : Act ρ Unit := modify fun m => { m with early := p }

/-- Tries an act; if it halts, the phase of early data is set before it does. -/
def orElseEarly (p : EarlyPhase) (a : Act ρ α) : Act ρ α := do
  try a
  catch e =>
    setEarly p
    throw e

/-- Passes on what has been written early. -/
def flushEarly (size : Nat) : Act ρ Nat := do
  flush
  setEarly .writeRetry
  return size

/-- Writes data early. As what is written waits in a buffer, all of it is written and then passed
on; if that is held up, the next call only passes it on. -/
def writeEarlyRecords (s : Script ρ) (data : Bytes) : Act ρ Nat := do
  let partialWrites := (← get).partialWrites
  setEarly .writing
  modify fun m => { m with partialWrites := false }
  orElseEarly .writeRetry do
    try
      let _ ← writeData s data
      modify fun m => { m with partialWrites }
    catch e =>
      modify fun m => { m with partialWrites }
      throw e
  setEarly .writeFlush
  flushEarly data.length

/-- Writes data before the server has answered, if the session at hand allows it. -/
def writeEarly (s : Script ρ) (allowed : Machine ρ → Bool) (data : Bytes) : Act ρ Nat := do
  let m ← get
  let greet : Act ρ Nat := do
    setEarly .connecting
    orElseEarly .connectRetry (doHandshake s)
    writeEarlyRecords s data
  match m.early with
  | .none => if m.isBefore && allowed m then greet else refuse .shouldNotHaveBeenCalled
  | .connectRetry => greet
  | .writeRetry => writeEarlyRecords s data
  | .writeFlush => flushEarly data.length
  | _ => refuse .shouldNotHaveBeenCalled

/-- Reads data that came early; none once there is no more to come. -/
def readEarlyRecords (s : Script ρ) (max : Nat) : Act ρ (Option Bytes) := do
  if (← get).earlyAnswer = .accepted then
    setEarly .reading
    try
      let data ← readData s max
      setEarly .readRetry
      return some data
    catch e =>
      if (← get).early = .finishedReading then return none
      else
        setEarly .readRetry
        throw e
  else
    setEarly .finishedReading
    return none

/-- Reads data that came early, greeting first if need be. -/
def readEarly (s : Script ρ) (max : Nat) : Act ρ (Option Bytes) := do
  let m ← get
  let greet : Act ρ (Option Bytes) := do
    setEarly .accepting
    orElseEarly .acceptRetry (doHandshake s)
    readEarlyRecords s max
  match m.early with
  | .none => if m.isBefore then greet else refuse .shouldNotHaveBeenCalled
  | .acceptRetry => greet
  | .readRetry => readEarlyRecords s max
  | _ => refuse .shouldNotHaveBeenCalled

/-! ### Closing -/

/-- Closes one's own direction, or waits for the peer to close its own; tells whether both are
closed. There is nothing to close before a handshake is over. -/
def close (s : Script ρ) : Act ρ Bool := do
  let m ← get
  if m.inInit then refuse .shutdownWhileInInit
  if !m.sentShutdown then
    modify fun m => { m with sentShutdown := true }
    sendAlert false AlertCode.closeNotify
    if (← get).alert ≠ .none then halt
  else if m.alert ≠ .none then
    if !(← dispatchAlert) then halt
  else if !m.receivedShutdown then
    try
      let _ ← readContent (handshake s) none 0
    catch _ => pure ()
    if !(← get).receivedShutdown then halt
  let m ← get
  return m.receivedShutdown && m.alert = .none

end Act

end SocketlessTls.Transparent
