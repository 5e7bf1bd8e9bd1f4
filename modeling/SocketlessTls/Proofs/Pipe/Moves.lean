import SocketlessTls.Pipe

/-!
# What a move does to a pipe

The owners of the two ends of a pipe act on it in *moves*, one after another: each move is carried
out as a whole before the next begins. There are several ways to read and to write, and each has
cases of its own, but what can become of the queues is one of four things: bytes go from the front
of the queue that waits at the mover's end, bytes go to the back of the queue that waits at the
other end, the mover's end is given up, or nothing happens.

`SocketlessTls.Pipe.Effect` names these four and `SocketlessTls.Pipe.step_effect` says that there
are no others. What is true of a pipe after any moves is read off the four from then on, and none
of the operations is opened again.

| operation | what it comes to | theorem |
|---|---|---|
| writing | a refusal, or bytes put | `SocketlessTls.Pipe.write_cases` |
| reading | a refusal, or bytes taken | `SocketlessTls.Pipe.read_cases` |
| reading into a buffer | the same, and a filled buffer | `SocketlessTls.Pipe.readInto_cases` |
-/

namespace SocketlessTls

/-! ### The two ends -/

namespace Side

/-- An end is not its own sibling. -/
theorem sibling_ne (s : Side) : s.sibling ≠ s := by cases s <;> decide

/-- There are no ends but these two. -/
theorem eq_sibling_of_ne {s t : Side} (h : t ≠ s) : t = s.sibling := by
  cases s <;> cases t <;> first | rfl | exact absurd rfl h

end Side

namespace Pipe

/-! ### Queues -/

section Queues

variable (p : Pipe) (s : Side) (queue : Bytes)

@[simp] theorem inbound_setInbound : (p.setInbound s queue).inbound s = queue := by
  cases s <;> rfl

theorem inbound_setInbound_of_ne {t : Side} (h : t ≠ s) :
    (p.setInbound s queue).inbound t = p.inbound t := by
  cases s <;> cases t <;> first | rfl | exact absurd rfl h

@[simp] theorem setInbound_inbound : p.setInbound s (p.inbound s) = p := by
  cases s <;> rfl

@[simp] theorem isReleased_setInbound (t : Side) :
    (p.setInbound s queue).isReleased t = p.isReleased t := by
  cases s <;> cases t <;> rfl

@[simp] theorem capacity_setInbound : (p.setInbound s queue).capacity = p.capacity := by
  cases s <;> rfl

/-- Nothing waits at an end that has just been given up. -/
@[simp] theorem inbound_release : (p.release s).inbound s = [] := by
  cases s <;> rfl

/-- **Giving up an end clears no queue but its own.** -/
theorem inbound_release_of_ne {t : Side} (h : t ≠ s) :
    (p.release s).inbound t = p.inbound t := by
  cases s <;> cases t <;> first | rfl | exact absurd rfl h

@[simp] theorem isReleased_release : (p.release s).isReleased s = true := by
  cases s <;> rfl

theorem isReleased_release_of_ne {t : Side} (h : t ≠ s) :
    (p.release s).isReleased t = p.isReleased t := by
  cases s <;> cases t <;> first | rfl | exact absurd rfl h

@[simp] theorem capacity_release : (p.release s).capacity = p.capacity := by
  cases s <;> rfl

end Queues

/-! ### The operations, case by case -/

section Cases

variable (p : Pipe) (s : Side)

/-- **A write is refused or puts a front part of the data.** What it puts fits, and the other end
is there to read it. -/
theorem write_cases (data : Bytes) :
    (∃ e, p.write s data = (.error e, p)) ∨
      ∃ n, n ≤ p.space s ∧ p.isSiblingReleased s = false ∧
        p.write s data = (.ok n, p.setOutbound s (p.outbound s ++ data.take n)) := by
  rcases hr : p.isSiblingReleased s with _ | _
  · rcases data with _ | ⟨b, data⟩
    · refine Or.inr ⟨0, Nat.zero_le _, rfl, ?_⟩
      simp [write, hr, setOutbound, outbound]
    · rcases Nat.eq_zero_or_pos (p.space s) with h0 | hpos
      · exact Or.inl ⟨.wouldBlock, by simp [write, hr, h0]⟩
      · refine Or.inr ⟨min (p.space s) (b :: data).length, Nat.min_le_left _ _, rfl, ?_⟩
        simp [write, hr, Nat.ne_of_gt hpos]
  · exact Or.inl ⟨.closed, by simp [write, hr]⟩

/-- **A read is refused or takes a front part of the queue.** -/
theorem read_cases (max : Nat) :
    (∃ e, p.read s max = (.error e, p)) ∨
      ∃ bytes rest, p.inbound s = bytes ++ rest ∧
        p.read s max = (.ok bytes, p.setInbound s rest) := by
  rcases hr : p.isSiblingReleased s with _ | _
  · rcases hq : p.inbound s with _ | ⟨b, queue⟩
    · exact Or.inl ⟨.wouldBlock, by simp [read, hr, hq]⟩
    · refine Or.inr ⟨_, _, (List.take_append_drop (min max (b :: queue).length) _).symm, ?_⟩
      simp [read, hr, hq]
  · exact Or.inl ⟨.closed, by simp [read, hr]⟩

/-- **Reading into a buffer is refused or takes a front part of the queue**, which then is the
front part of the buffer. -/
theorem readInto_cases (buffer : Bytes) :
    (∃ e, p.readInto s buffer = (.error e, buffer, p)) ∨
      ∃ bytes rest, p.inbound s = bytes ++ rest ∧
        p.readInto s buffer =
          (.ok bytes.length, bytes ++ buffer.drop bytes.length, p.setInbound s rest) := by
  rcases hr : p.isSiblingReleased s with _ | _
  · rcases hq : p.inbound s with _ | ⟨b, queue⟩
    · exact Or.inl ⟨.wouldBlock, by simp [readInto, hr, hq]⟩
    · have hn : ((b :: queue).take (min buffer.length (b :: queue).length)).length =
          min buffer.length (b :: queue).length := by simp
      refine Or.inr ⟨_, _,
        (List.take_append_drop (min buffer.length (b :: queue).length) _).symm, ?_⟩
      rw [hn]
      simp [readInto, hr, hq]
  · exact Or.inl ⟨.closed, by simp [readInto, hr]⟩

/-! As a byte stream an end does the same and reports errors in another way. -/

theorem ioWrite_of_error {data : Bytes} {e : PipeError} (h : p.write s data = (.error e, p)) :
    p.ioWrite s data = (.error (writeError e), p) := by
  rw [ioWrite, h]
  rfl

theorem ioWrite_of_ok {data : Bytes} {n : Nat} {p' : Pipe} (h : p.write s data = (.ok n, p')) :
    p.ioWrite s data = (.ok n, p') := by
  rw [ioWrite, h]
  rfl

theorem ioRead_of_error {buffer : Bytes} (hb : buffer.isEmpty = false) {e : PipeError}
    (h : p.readInto s buffer = (.error e, buffer, p)) :
    p.ioRead s buffer = (.error (readError e), buffer, p) := by
  rw [ioRead, if_neg (by simp [hb]), h]
  rfl

theorem ioRead_of_ok {buffer buffer' : Bytes} (hb : buffer.isEmpty = false) {n : Nat} {p' : Pipe}
    (h : p.readInto s buffer = (.ok n, buffer', p')) :
    p.ioRead s buffer = (.ok n, buffer', p') := by
  rw [ioRead, if_neg (by simp [hb]), h]
  rfl

end Cases

/-! ### Moves -/

/-- What the owner of an end can do. -/
inductive Action where
  | write (data : Bytes)
  | read (max : Nat)
  | readInto (buffer : Bytes)
  /-- Writes as a byte stream. -/
  | ioWrite (data : Bytes)
  /-- Reads as a byte stream. -/
  | ioRead (buffer : Bytes)
  /-- Gives the end up. -/
  | release
  deriving Repr, DecidableEq

/-- An action at one of the two ends. -/
structure Move where
  side : Side
  action : Action
  deriving Repr, DecidableEq

/-- What an action is answered. -/
inductive Answer where
  | written (result : Except PipeError Nat)
  | read (result : Except PipeError Bytes)
  | filled (result : Except PipeError Nat) (buffer : Bytes)
  | ioWritten (result : Except IoError Nat)
  | ioFilled (result : Except IoError Nat) (buffer : Bytes)
  | released

/-- Carries out a move. -/
def step (p : Pipe) (m : Move) : Answer × Pipe :=
  match m.action with
  | .write data =>
    let (result, p) := p.write m.side data
    (.written result, p)
  | .read max =>
    let (result, p) := p.read m.side max
    (.read result, p)
  | .readInto buffer =>
    let (result, buffer, p) := p.readInto m.side buffer
    (.filled result buffer, p)
  | .ioWrite data =>
    let (result, p) := p.ioWrite m.side data
    (.ioWritten result, p)
  | .ioRead buffer =>
    let (result, buffer, p) := p.ioRead m.side buffer
    (.ioFilled result buffer, p)
  | .release => (.released, p.release m.side)

/-! ### Who is there -/

section Ends

variable (p : Pipe) (s t : Side)

/-- Writing as a byte stream gives up no end. -/
theorem isReleased_ioWrite (data : Bytes) :
    (p.ioWrite s data).2.isReleased t = p.isReleased t := by
  rcases p.write_cases s data with ⟨e, he⟩ | ⟨n, -, -, hw⟩
  · rw [p.ioWrite_of_error s he]
  · rw [p.ioWrite_of_ok s hw]
    exact p.isReleased_setInbound s.sibling _ t

/-- Reading as a byte stream gives up no end. -/
theorem isReleased_ioRead (buffer : Bytes) :
    (p.ioRead s buffer).2.2.isReleased t = p.isReleased t := by
  rcases hb : buffer.isEmpty with _ | _
  · rcases p.readInto_cases s buffer with ⟨e, he⟩ | ⟨bytes, rest, -, hr⟩
    · rw [p.ioRead_of_error s hb he]
    · rw [p.ioRead_of_ok s hb hr]
      exact p.isReleased_setInbound s rest t
  · rw [Pipe.ioRead, if_pos hb]

/-- **Nothing but giving it up gives up an end.** -/
theorem isReleased_step_of_ne_release {m : Move} (h : m.action ≠ .release) :
    (p.step m).2.isReleased t = p.isReleased t := by
  obtain ⟨s, action⟩ := m
  cases action with
  | write data =>
    rcases p.write_cases s data with ⟨e, he⟩ | ⟨n, -, -, hw⟩
    · simp only [step, he]
    · simp only [step, hw]
      exact p.isReleased_setInbound s.sibling _ t
  | read max =>
    rcases p.read_cases s max with ⟨e, he⟩ | ⟨bytes, rest, -, hr⟩
    · simp only [step, he]
    · simp only [step, hr]
      exact p.isReleased_setInbound s rest t
  | readInto buffer =>
    rcases p.readInto_cases s buffer with ⟨e, he⟩ | ⟨bytes, rest, -, hr⟩
    · simp only [step, he]
    · simp only [step, hr]
      exact p.isReleased_setInbound s rest t
  | ioWrite data => exact p.isReleased_ioWrite s t data
  | ioRead buffer => exact p.isReleased_ioRead s t buffer
  | release => exact absurd rfl h

/-- An end is gone after a move if it was gone before or is given up by it. -/
theorem isReleased_step_iff (m : Move) :
    (p.step m).2.isReleased t = true ↔ p.isReleased t = true ∨ m = ⟨t, .release⟩ := by
  obtain ⟨s, action⟩ := m
  by_cases h : action = .release
  · subst h
    show (p.release s).isReleased t = true ↔ _
    by_cases hts : t = s
    · subst hts
      simp
    · rw [p.isReleased_release_of_ne s hts]
      simp [Ne.symm hts]
  · rw [p.isReleased_step_of_ne_release t h]
    simp [h]

end Ends

/-- The end at which the queue waits that a move is about: the other one for a write. -/
def Move.queue (m : Move) : Side :=
  match m.action with
  | .write _ | .ioWrite _ => m.side.sibling
  | _ => m.side

/-- The bytes that a write reports as accepted. -/
def Action.accepted : Action → Answer → Bytes
  | .write data, .written (.ok n) => data.take n
  | .ioWrite data, .ioWritten (.ok n) => data.take n
  | _, _ => []

/-- The bytes that a read hands over. -/
def Answer.delivered : Answer → Bytes
  | .read (.ok bytes) => bytes
  | .filled (.ok n) buffer => buffer.take n
  | .ioFilled (.ok n) buffer => buffer.take n
  | _ => []

/-! ### Effects -/

/-- **What can become of a pipe by a move at the end `s`**, with the end at which the queue waits
that is concerned, the bytes accepted, and the bytes delivered. -/
inductive Effect (p : Pipe) (s : Side) : Side → (accepted delivered : Bytes) → Pipe → Prop
  /-- The front of the queue goes to the mover. -/
  | take {bytes rest : Bytes} (front : p.inbound s = bytes ++ rest) :
      Effect p s s [] bytes (p.setInbound s rest)
  /-- Bytes that fit go to the back of the other end's queue, as long as that end is there. -/
  | put {bytes : Bytes} (fits : bytes.length ≤ p.space s) (live : p.isSiblingReleased s = false) :
      Effect p s s.sibling bytes [] (p.setOutbound s (p.outbound s ++ bytes))
  /-- The mover's end is given up. -/
  | release : Effect p s s [] [] (p.release s)
  /-- Nothing happens. -/
  | nothing {queue : Side} : Effect p s queue [] [] p

/-- **Every move has one of the four effects**, and what it is answered tells which bytes went. -/
theorem step_effect (p : Pipe) (m : Move) :
    Effect p m.side m.queue (m.action.accepted (p.step m).1) (p.step m).1.delivered
      (p.step m).2 := by
  obtain ⟨s, action⟩ := m
  cases action with
  | write data =>
    rcases p.write_cases s data with ⟨e, he⟩ | ⟨n, hn, hlive, hw⟩
    · simpa [step, he, Action.accepted, Answer.delivered] using Effect.nothing
    · simp only [step, hw, Action.accepted, Answer.delivered, Move.queue]
      exact .put (Nat.le_trans (List.length_take_le _ _) hn) hlive
  | read max =>
    rcases p.read_cases s max with ⟨e, he⟩ | ⟨bytes, rest, hq, hr⟩
    · simpa [step, he, Action.accepted, Answer.delivered] using Effect.nothing
    · simpa only [step, hr, Action.accepted, Answer.delivered, Move.queue] using Effect.take hq
  | readInto buffer =>
    rcases p.readInto_cases s buffer with ⟨e, he⟩ | ⟨bytes, rest, hq, hr⟩
    · simpa [step, he, Action.accepted, Answer.delivered] using Effect.nothing
    · simpa only [step, hr, Action.accepted, Answer.delivered, Move.queue, List.take_left']
        using Effect.take hq
  | ioWrite data =>
    rcases p.write_cases s data with ⟨e, he⟩ | ⟨n, hn, hlive, hw⟩
    · simpa [step, p.ioWrite_of_error s he, Action.accepted, Answer.delivered]
        using Effect.nothing
    · simp only [step, p.ioWrite_of_ok s hw, Action.accepted, Answer.delivered, Move.queue]
      exact .put (Nat.le_trans (List.length_take_le _ _) hn) hlive
  | ioRead buffer =>
    rcases hb : buffer.isEmpty with _ | _
    · rcases p.readInto_cases s buffer with ⟨e, he⟩ | ⟨bytes, rest, hq, hr⟩
      · simpa [step, p.ioRead_of_error s hb he, Action.accepted, Answer.delivered]
          using Effect.nothing
      · simpa [step, p.ioRead_of_ok s hb hr, Action.accepted, Answer.delivered, Move.queue]
          using Effect.take hq
    · simpa [step, ioRead, hb, Action.accepted, Answer.delivered] using Effect.nothing
  | release => exact .release

end Pipe

end SocketlessTls
