import SocketlessTls.Bytes
import SocketlessTls.IoKind

/-!
# The transport pipe

A pipe is a pair of bounded byte queues between two endpoints. The engine endpoint carries the
records that a TLS engine produces and consumes; the caller endpoint is pumped by an application
against its network. Nothing ever blocks: a full queue and an empty one are reported, and so is a
sibling that has been released.

* `SocketlessTls.Pipe.write`, `SocketlessTls.Pipe.read`, `SocketlessTls.Pipe.readInto` – what an
  endpoint does on its own;
* `SocketlessTls.Pipe.ioWrite`, `SocketlessTls.Pipe.ioRead` – the same for a byte stream, where a
  released sibling is an error and never the end of the stream;
* `SocketlessTls.Pipe.writeAll` – writing on and on until everything is queued or a write fails,
  turn by turn.
-/

namespace SocketlessTls

/-- Which end of a pipe an endpoint is. -/
inductive Side where
  /-- Driven by the TLS engine. -/
  | engine
  /-- Pumped by the application. -/
  | caller
  deriving Repr, DecidableEq

namespace Side

/-- The other end. -/
def sibling : Side → Side
  | engine => caller
  | caller => engine

/-- The other end's other end. -/
@[simp] theorem sibling_sibling (s : Side) : s.sibling.sibling = s := by cases s <;> rfl

/-- The name of an end. -/
def text : Side → String
  | engine => "engine"
  | caller => "caller"

/-- The name of an end as a label. -/
def label : Side → String
  | engine => "Engine"
  | caller => "Caller"

end Side

/-- Why an endpoint did nothing. -/
inductive PipeError where
  /-- The queue is empty (reading) or full (writing); try again after the other side moves. -/
  | wouldBlock
  /-- The sibling endpoint has been released. -/
  | closed
  deriving Repr, DecidableEq

/-- The text of a pipe error. -/
def PipeError.message : PipeError → String
  | wouldBlock => "operation would block"
  | closed => "transport pipe closed"

/-- A byte-stream error: its kind, and the pipe error it stands for if it says more. -/
structure IoError where
  kind : IoKind
  cause : Option PipeError
  deriving Repr, DecidableEq

/-- The text of a byte-stream error. -/
def IoError.message (e : IoError) : String :=
  match e.cause with
  | some cause => cause.message
  | none => e.kind.text

/-- Two bounded queues, and which ends are gone. -/
structure Pipe where
  /-- The most bytes that wait in either direction. -/
  capacity : Nat
  toEngine : Bytes
  toCaller : Bytes
  engineReleased : Bool
  callerReleased : Bool
  deriving Repr, DecidableEq

namespace Pipe

/-- One record of the largest size with its overhead. -/
def defaultCapacity : Nat := 17 * 1024

/-- An empty pipe; a capacity of zero is raised to one so that progress stays possible. -/
def withCapacity (capacity : Nat) : Pipe := ⟨max capacity 1, [], [], false, false⟩

/-- An empty pipe of the default capacity. -/
def default : Pipe := withCapacity defaultCapacity

/-! ### Looking at an endpoint -/

/-- What waits to be read at an end. -/
def inbound (p : Pipe) : Side → Bytes
  | .engine => p.toEngine
  | .caller => p.toCaller

/-- What waits to be read at the other end. -/
def outbound (p : Pipe) (s : Side) : Bytes := p.inbound s.sibling

/-- Whether an end is gone. -/
def isReleased (p : Pipe) : Side → Bool
  | .engine => p.engineReleased
  | .caller => p.callerReleased

/-- Whether the other end is gone. -/
def isSiblingReleased (p : Pipe) (s : Side) : Bool := p.isReleased s.sibling

/-- The number of bytes waiting to be read at an end. -/
def pending (p : Pipe) (s : Side) : Nat := (p.inbound s).length

/-- The number of bytes that fit before the sibling must read. -/
def space (p : Pipe) (s : Side) : Nat := p.capacity - (p.outbound s).length

/-- An end in short. -/
def text (p : Pipe) (s : Side) : String :=
  s!"Endpoint \x7b side: {s.label}, pending: {p.pending s} \x7d"

/-! ### Moving bytes -/

/-- The pipe with another queue waiting at an end. -/
def setInbound (p : Pipe) (s : Side) (queue : Bytes) : Pipe :=
  match s with
  | .engine => { p with toEngine := queue }
  | .caller => { p with toCaller := queue }

/-- The pipe with another queue waiting at the other end. -/
def setOutbound (p : Pipe) (s : Side) (queue : Bytes) : Pipe := p.setInbound s.sibling queue

/-- Gives up an end. Nobody can read what waited there, so it goes too. -/
def release (p : Pipe) (s : Side) : Pipe :=
  let p := p.setInbound s []
  match s with
  | .engine => { p with engineReleased := true }
  | .caller => { p with callerReleased := true }

/-- Queues as much of `data` as fits and tells how much that was. -/
def write (p : Pipe) (s : Side) (data : Bytes) : Except PipeError Nat × Pipe :=
  if p.isSiblingReleased s then (.error .closed, p)
  else if data.isEmpty then (.ok 0, p)
  else
    let room := p.space s
    if room = 0 then (.error .wouldBlock, p)
    else
      let n := min room data.length
      (.ok n, p.setOutbound s (p.outbound s ++ data.take n))

/-- Takes at most `max` bytes. -/
def read (p : Pipe) (s : Side) (max : Nat) : Except PipeError Bytes × Pipe :=
  if p.isSiblingReleased s then (.error .closed, p)
  else
    let queue := p.inbound s
    if queue.isEmpty then (.error .wouldBlock, p)
    else
      let n := min max queue.length
      (.ok (queue.take n), p.setInbound s (queue.drop n))

/-- Takes bytes to the front of a buffer and tells how many they were; the rest of the buffer, and
on an error all of it, stays as it is. -/
def readInto (p : Pipe) (s : Side) (buffer : Bytes) : Except PipeError Nat × Bytes × Pipe :=
  if p.isSiblingReleased s then (.error .closed, buffer, p)
  else
    let queue := p.inbound s
    if queue.isEmpty then (.error .wouldBlock, buffer, p)
    else
      let n := min buffer.length queue.length
      (.ok n, queue.take n ++ buffer.drop n, p.setInbound s (queue.drop n))

/-! ### As a byte stream -/

/-- How a reading byte stream reports a pipe error. -/
def readError : PipeError → IoError
  | .wouldBlock => ⟨.wouldBlock, none⟩
  | .closed => ⟨.connectionAborted, some .closed⟩

/-- How a writing byte stream reports a pipe error. -/
def writeError : PipeError → IoError
  | .wouldBlock => ⟨.wouldBlock, none⟩
  | .closed => ⟨.brokenPipe, some .closed⟩

/-- Reads into a buffer; reading into an empty one does nothing. -/
def ioRead (p : Pipe) (s : Side) (buffer : Bytes) : Except IoError Nat × Bytes × Pipe :=
  if buffer.isEmpty then (.ok 0, buffer, p)
  else
    let (result, buffer, p) := p.readInto s buffer
    (result.mapError readError, buffer, p)

/-- Writes what fits. -/
def ioWrite (p : Pipe) (s : Side) (data : Bytes) : Except IoError Nat × Pipe :=
  let (result, p) := p.write s data
  (result.mapError writeError, p)

/-- Queued bytes leave nothing to flush. -/
def ioFlush (p : Pipe) (_ : Side) : Except IoError Unit × Pipe := (.ok (), p)

/-! ### Writing everything -/

/-- **A write is never interrupted**: its errors are of other kinds. -/
theorem ioWrite_ne_interrupted (p : Pipe) (s : Side) {data : Bytes} {e : IoError}
    (h : (p.ioWrite s data).1 = .error e) : e.kind ≠ .interrupted := by
  rcases hw : (p.write s data).1 with cause | n
  · have hio : (p.ioWrite s data).1 = .error (writeError cause) :=
      congrArg (Except.mapError writeError) hw
    obtain rfl := Except.error.inj (hio.symm.trans h)
    cases cause <;> decide
  · have hio : (p.ioWrite s data).1 = .ok n := congrArg (Except.mapError writeError) hw
    cases hio.symm.trans h

/-- A loop of writes under way: the pipe by now, and the data that is left. -/
structure Writing where
  pipe : Pipe
  rest : Bytes
  deriving Repr, DecidableEq

namespace Writing

/-- What a turn of the loop comes to. -/
inductive Turn where
  /-- The loop goes on from here. -/
  | again (next : Writing)
  /-- The loop is over. -/
  | ended (result : Except IoError Unit) (pipe : Pipe)

/-- One turn of the loop: a write of all that is left. What it takes is done with, and if it is
interrupted it is made again; a write that takes nothing ends the loop, and so does any other
failure. -/
def turn (s : Side) (w : Writing) : Turn :=
  if w.rest.isEmpty then .ended (.ok ()) w.pipe
  else
    match w.pipe.ioWrite s w.rest with
    | (.ok 0, p) => .ended (.error ⟨.writeZero, none⟩) p
    | (.ok (n + 1), p) => .again ⟨p, w.rest.drop (n + 1)⟩
    | (.error e, p) => if e.kind = .interrupted then .again ⟨p, w.rest⟩ else .ended (.error e) p

/-- **A turn after which the loop goes on leaves less to write.** -/
theorem length_rest_lt {s : Side} {w next : Writing} (h : w.turn s = .again next) :
    next.rest.length < w.rest.length := by
  rw [turn] at h
  split at h
  case isTrue => cases h
  case isFalse hrest =>
    have hpos : 0 < w.rest.length := List.length_pos_iff.mpr (by simpa using hrest)
    split at h
    case h_1 => cases h
    case h_2 n p hwrite =>
      obtain rfl := Turn.again.inj h
      rw [List.length_drop]
      omega
    case h_3 e p hwrite =>
      rw [if_neg (w.pipe.ioWrite_ne_interrupted s (congrArg Prod.fst hwrite))] at h
      cases h

/-- Takes turns until the loop is over. -/
def finish (s : Side) (w : Writing) : Except IoError Unit × Pipe :=
  match h : w.turn s with
  | .ended result p => (result, p)
  | .again next =>
    have : next.rest.length < w.rest.length := length_rest_lt h
    next.finish s
termination_by w.rest.length

end Writing

/-- Writes everything, or what fits and then the error. -/
def writeAll (p : Pipe) (s : Side) (data : Bytes) : Except IoError Unit × Pipe :=
  Writing.finish s ⟨p, data⟩

end Pipe

end SocketlessTls
