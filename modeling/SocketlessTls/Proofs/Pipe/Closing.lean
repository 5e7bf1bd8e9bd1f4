import Mathlib.Tactic.SplitIfs
import SocketlessTls.Proofs.Pipe.Fifo

/-!
# A pipe that has lost an end

When an end of a pipe is given up, the owner of the other end is told so by whatever it tries next,
and by everything it tries after that. This comes before all else that an operation might say: that
there is nothing to write, that nothing waits, that there is no room. And it is not said a moment
too early: while both ends are there an operation that fails does so for want of bytes or of room
(`SocketlessTls.Pipe.saysClosed_step`).

Nothing moves any more in such a pipe, for the only owner that is left is refused everything but to
give up its own end. So the pipe stands still (`SocketlessTls.Pipe.after_of_deserted`), and what
waited for that owner when the other one went is counted to the end, although it cannot be read.

For once it matters that every move has somebody to make it: at an end that is gone nobody is left
to write (`SocketlessTls.Pipe.Possible`).

* `SocketlessTls.Pipe.Deserted` – what everything comes to at an end whose sibling is gone;
* `SocketlessTls.Pipe.closed_for_good` – an end is in this condition from the release of its sibling
  on, and is told nothing of the kind before.
-/

namespace SocketlessTls

/-- Whether a byte-stream error is one that stands for a released sibling. -/
def IoError.saysClosed (e : IoError) : Bool :=
  e.kind = .connectionAborted || e.kind = .brokenPipe

namespace Pipe

/-- Whether an answer says that the sibling has been released. -/
def Answer.saysClosed : Answer → Bool
  | .written (.error .closed) | .read (.error .closed) | .filled (.error .closed) _ => true
  | .ioWritten (.error e) | .ioFilled (.error e) _ => e.saysClosed
  | _ => false

/-! ### While the sibling is there -/

section Live

variable {p : Pipe} {s : Side} (h : p.isSiblingReleased s = false) {e : PipeError}
include h

/-- A write fails only for want of room. -/
theorem error_of_write {data : Bytes} (he : (p.write s data).1 = .error e) : e = .wouldBlock := by
  simp only [write, h, Bool.false_eq_true, if_false] at he
  split_ifs at he
  exact (Except.error.inj he).symm

/-- A read fails only for want of bytes. -/
theorem error_of_read {max : Nat} (he : (p.read s max).1 = .error e) : e = .wouldBlock := by
  simp only [read, h, Bool.false_eq_true, if_false] at he
  split_ifs at he
  exact (Except.error.inj he).symm

theorem error_of_readInto {buffer : Bytes} (he : (p.readInto s buffer).1 = .error e) :
    e = .wouldBlock := by
  simp only [readInto, h, Bool.false_eq_true, if_false] at he
  split_ifs at he
  exact (Except.error.inj he).symm

/-- **Nothing says that the sibling is gone while it is there.** -/
theorem saysClosed_step (action : Action) : (p.step ⟨s, action⟩).1.saysClosed = false := by
  cases action with
  | write data =>
    rcases hw : (p.write s data).1 with e | n
    · obtain rfl := error_of_write h hw
      simp only [step, hw, Answer.saysClosed]
    · simp only [step, hw, Answer.saysClosed]
  | read max =>
    rcases hr : (p.read s max).1 with e | bytes
    · obtain rfl := error_of_read h hr
      simp only [step, hr, Answer.saysClosed]
    · simp only [step, hr, Answer.saysClosed]
  | readInto buffer =>
    rcases hr : (p.readInto s buffer).1 with e | n
    · obtain rfl := error_of_readInto h hr
      simp only [step, hr, Answer.saysClosed]
    · simp only [step, hr, Answer.saysClosed]
  | ioWrite data =>
    rcases hw : (p.write s data).1 with e | n
    · obtain rfl := error_of_write h hw
      simp only [step, ioWrite, hw, Except.mapError, Answer.saysClosed]
      rfl
    · simp only [step, ioWrite, hw, Except.mapError, Answer.saysClosed]
  | ioRead buffer =>
    rcases hb : buffer.isEmpty with _ | _
    · rcases hr : (p.readInto s buffer).1 with e | n
      · obtain rfl := error_of_readInto h hr
        simp only [step, ioRead, hb, hr, Except.mapError, Answer.saysClosed, Bool.false_eq_true,
          if_false]
        rfl
      · simp only [step, ioRead, hb, hr, Except.mapError, Answer.saysClosed, Bool.false_eq_true,
          if_false]
    · simp only [step, ioRead, hb, if_true, Answer.saysClosed]
  | release => rfl

end Live

/-! ### Once it is gone -/

/-- **What everything comes to at an end whose sibling is gone.** -/
structure Deserted (p : Pipe) (s : Side) : Prop where
  isSiblingReleased : p.isSiblingReleased s = true
  /-- Writing is refused, of no bytes too. -/
  write : ∀ data, p.write s data = (.error .closed, p)
  /-- Reading is refused, whatever waits. -/
  read : ∀ max, p.read s max = (.error .closed, p)
  readInto : ∀ buffer, p.readInto s buffer = (.error .closed, buffer, p)
  /-- As a byte stream the end fails with errors that are not those of want. -/
  ioWrite : ∀ data, p.ioWrite s data = (.error ⟨.brokenPipe, some .closed⟩, p)
  ioRead : ∀ buffer, buffer ≠ [] →
    p.ioRead s buffer = (.error ⟨.connectionAborted, some .closed⟩, buffer, p)
  /-- Only where nothing is asked for nothing fails. -/
  ioReadNothing : p.ioRead s [] = (.ok 0, [], p)
  ioFlush : p.ioFlush s = (.ok (), p)

section Gone

variable {p : Pipe} {s : Side} (h : p.isSiblingReleased s = true)
include h

/-- **An end whose sibling is gone is deserted.** -/
theorem deserted_of_isSiblingReleased : Deserted p s := by
  have hwrite (data : Bytes) : p.write s data = (.error .closed, p) := by simp [Pipe.write, h]
  have hinto (buffer : Bytes) : p.readInto s buffer = (.error .closed, buffer, p) := by
    simp [Pipe.readInto, h]
  exact {
    isSiblingReleased := h
    write := hwrite
    read := fun max => by simp [Pipe.read, h]
    readInto := hinto
    ioWrite := fun data => p.ioWrite_of_error s (hwrite data)
    ioRead := fun buffer hb => p.ioRead_of_error s (by simpa using hb) (hinto buffer)
    ioReadNothing := rfl
    ioFlush := rfl }

/-- Nothing that its owner tries there changes the pipe, but to give up this end too. -/
theorem step_of_deserted {action : Action} (ha : action ≠ .release) :
    (p.step ⟨s, action⟩).2 = p := by
  have hd := deserted_of_isSiblingReleased h
  cases action with
  | write data => simp only [step, hd.write]
  | read max => simp only [step, hd.read]
  | readInto buffer => simp only [step, hd.readInto]
  | ioWrite data => simp only [step, hd.ioWrite]
  | ioRead buffer =>
    by_cases hb : buffer = []
    · subst hb
      simp only [step, hd.ioReadNothing]
    · simp only [step, hd.ioRead buffer hb]
  | release => exact absurd rfl ha

end Gone

/-! ### Moves that somebody makes -/

/-- **Every move is made at an end that is there.** -/
def Possible (p : Pipe) : List Move → Prop
  | [] => True
  | m :: moves => p.isReleased m.side = false ∧ (p.step m).2.Possible moves

theorem possible_append (p : Pipe) (moves later : List Move) :
    p.Possible (moves ++ later) ↔ p.Possible moves ∧ (p.after moves).Possible later := by
  induction moves generalizing p with
  | nil => simp [Possible]
  | cons m moves ih => simp [Possible, ih, and_assoc]

/-- **A pipe that has lost an end stands still** until the other end is given up too. -/
theorem after_of_deserted {p : Pipe} {s : Side} (h : p.isSiblingReleased s = true)
    {moves : List Move} (hmoves : p.Possible moves)
    (hs : (p.after moves).isReleased s = false) : p.after moves = p := by
  induction moves with
  | nil => rfl
  | cons m moves ih =>
    obtain ⟨hm, hlater⟩ := hmoves
    -- the only owner that is left made the move, and it did not leave with it
    have hside : m.side = s := by
      by_contra hne
      rw [Side.eq_sibling_of_ne hne, ← isSiblingReleased, h] at hm
      exact Bool.noConfusion hm
    have haction : m.action ≠ .release := by
      intro hrelease
      have hgone : (p.after (m :: moves)).isReleased s = true := by
        refine (p.isReleased_after_iff s _).mpr (Or.inr ?_)
        rw [← hside, ← hrelease]
        exact List.mem_cons_self
      exact Bool.noConfusion (hs.symm.trans hgone)
    have hstill : (p.step m).2 = p := by
      obtain ⟨side, action⟩ := m
      obtain rfl := hside
      exact step_of_deserted h haction
    rw [hstill] at hlater
    rw [after_cons, hstill] at hs ⊢
    exact ih hlater hs

/-! ### From the release on -/

/-- **A pipe is closed for good.** Take a fresh pipe of any capacity, any moves of its two owners,
and either end. As long as the sibling of this end has not been given up, nothing says that it has.
From the moment at which it is given up everything at this end comes to what
`SocketlessTls.Pipe.Deserted` says, whatever moves follow; and as long as this end is there, as many
bytes are pending as there were at that moment, and the space is the whole capacity. -/
theorem closed_for_good (capacity : Nat) (moves : List Move)
    (h : (withCapacity capacity).Possible moves) (s : Side) :
    let start := withCapacity capacity
    let p := start.after moves
    (⟨s.sibling, .release⟩ ∉ moves → ∀ action, (p.step ⟨s, action⟩).1.saysClosed = false) ∧
    ∀ before later, moves = before ++ ⟨s.sibling, .release⟩ :: later →
      Deserted p s ∧
      (⟨s, .release⟩ ∉ moves →
        p.pending s = (start.after before).pending s ∧ p.space s = p.capacity) := by
  intro start p
  have hfresh (t : Side) : start.isReleased t = false := by cases t <;> rfl
  have hgone (t : Side) : p.isReleased t = true ↔ ⟨t, .release⟩ ∈ moves := by
    rw [isReleased_after_iff, hfresh t]
    simp
  refine ⟨fun hno action => ?_, ?_⟩
  · refine saysClosed_step (s := s) ?_ action
    rwa [isSiblingReleased, Bool.eq_false_iff, ne_eq, hgone]
  · rintro before later rfl
    have hsibling : p.isSiblingReleased s = true := (hgone s.sibling).mpr (by simp)
    refine ⟨deserted_of_isSiblingReleased hsibling, fun hhere => ?_⟩
    -- at the release only the queue of the end that goes is thrown away; after it nothing moves
    have hlater := ((possible_append start before _).mp h).2.2
    have hrest : p = ((start.after before).release s.sibling).after later := by
      show start.after _ = _
      rw [after_append, after_cons]
      rfl
    have hstill : p = (start.after before).release s.sibling := by
      rw [hrest]
      refine after_of_deserted (s := s) (isReleased_release _ _) hlater ?_
      rwa [← hrest, Bool.eq_false_iff, ne_eq, hgone]
    constructor
    · rw [hstill, pending, inbound_release_of_ne _ _ (Side.sibling_ne s).symm, pending]
    · have hempty : p.outbound s = [] :=
        ((sound_withCapacity capacity).after _).cleared s.sibling hsibling
      rw [space, hempty, List.length_nil, Nat.sub_zero]

/-- The engine leaves a byte behind that it has not read and another that has not been read; the
owner of the other end is refused although a byte waits for it. -/
theorem closed_with_byte_pending :
    let moves : List Move := [⟨.caller, .write [1]⟩, ⟨.engine, .write [2]⟩] ++
      ⟨.engine, .release⟩ :: [⟨.caller, .read 1⟩]
    (withCapacity 4).Possible moves ∧ Deserted ((withCapacity 4).after moves) .caller ∧
      ((withCapacity 4).after moves).pending .caller = 1 ∧
      ((withCapacity 4).after moves).space .caller = 4 := by
  intro moves
  have h : (withCapacity 4).Possible moves := ⟨rfl, rfl, rfl, rfl, trivial⟩
  obtain ⟨hdeserted, hcounts⟩ := (closed_for_good 4 moves h .caller).2 _ _ rfl
  exact ⟨h, hdeserted, hcounts (by decide)⟩

end Pipe

end SocketlessTls
