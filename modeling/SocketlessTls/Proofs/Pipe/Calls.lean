import SocketlessTls.Engine.Call
import SocketlessTls.Poll
import SocketlessTls.Proofs.Pipe.Fifo

/-!
# Calls as moves, and what it means that one is blocked

A call decides what it does next by what it has been answered, so it is a tree. Over a given pipe
only one path of the tree is taken, and on the pipe that path is a list of moves
(`SocketlessTls.Call.moves`, `SocketlessTls.Call.run_pipe`). What holds of a pipe after any moves
therefore holds of it after any call.

A call that gives up because its last transfer would have blocked leaves a pipe behind that says
why: to its reader nothing is left to read, or for its writer no room is left, and the other end is
there. This is exactly what the owner of the other end needs in order to move
(`SocketlessTls.Pipe.Movable`), since no queue holds more than the capacity and the capacity is not
zero.

* `SocketlessTls.Pipe.EndsBlocked` – the last of some moves was a transfer that would have blocked;
* `SocketlessTls.Pipe.EndsBlocked.missing` – what it missed is then missing still;
* `SocketlessTls.Pipe.movable_of_missing` – and the owner of the other end can give it.
-/

namespace SocketlessTls

/-! ### The moves of a call -/

namespace Call

variable {α : Type}

/-- **The moves of a call** at one end of a pipe, in order. -/
def moves (side : Side) : Call α → World → List Pipe.Move
  | done _, _ => []
  | read max next, w =>
    let buffer := List.replicate max 0
    let (result, buffer', pipe) := w.pipe.ioRead side buffer
    ⟨side, .ioRead buffer⟩ ::
      (next (result.map fun n => buffer'.take n)).moves side { w with pipe }
  | write data next, w =>
    let (result, pipe) := w.pipe.ioWrite side data
    ⟨side, .ioWrite data⟩ :: (next result).moves side { w with pipe }
  | makeObject next, w =>
    let (id, objects) := w.objects.fresh
    (next id).moves side { w with objects }
  | retireObject id next, w => next.moves side { w with objects := w.objects.retire id }

/-- **A call does to the pipe what its moves do**, by induction on what the call does. -/
theorem run_pipe (side : Side) (c : Call α) (w : World) :
    (c.run side w).2.pipe = w.pipe.after (c.moves side w) := by
  induction c generalizing w with
  | done a => rfl
  | read max next ih => exact ih _ _
  | write data next ih => exact ih _ _
  | makeObject next ih => exact ih _ _
  | retireObject id next ih => exact ih _

end Call

namespace Pipe

/-! ### Transfers that would block -/

section Blocked

variable {p : Pipe} {s : Side}

/-- **A read that would block** finds nothing at an end whose sibling is there, and takes nothing. A
read of nothing never blocks. -/
theorem ioRead_wouldBlock {buffer : Bytes} {e : IoError}
    (h : (p.ioRead s buffer).1 = .error e) (he : e.kind = .wouldBlock) :
    p.isSiblingReleased s = false ∧ p.inbound s = [] ∧ (p.ioRead s buffer).2.2 = p := by
  rcases hb : buffer.isEmpty with _ | _
  · rcases hr : p.isSiblingReleased s with _ | _
    · rcases hq : p.inbound s with _ | ⟨b, queue⟩
      · have hread : p.readInto s buffer = (.error .wouldBlock, buffer, p) := by
          simp [readInto, hr, hq]
        rw [p.ioRead_of_error s hb hread]
        exact ⟨rfl, rfl, rfl⟩
      · simp [ioRead, hb, readInto, hr, hq, Except.mapError] at h
    · have hread : p.readInto s buffer = (.error .closed, buffer, p) := by
        simp [readInto, hr]
      rw [p.ioRead_of_error s hb hread] at h
      obtain rfl := Except.error.inj h
      cases he
  · simp [ioRead, hb] at h

/-- **A write that would block** finds no room at an end whose sibling is there, and puts nothing. A
write of nothing never blocks. -/
theorem ioWrite_wouldBlock {data : Bytes} {e : IoError}
    (h : (p.ioWrite s data).1 = .error e) (he : e.kind = .wouldBlock) :
    p.isSiblingReleased s = false ∧ p.space s = 0 ∧ (p.ioWrite s data).2 = p := by
  rcases hr : p.isSiblingReleased s with _ | _
  · rcases hd : data.isEmpty with _ | _
    · rcases Nat.eq_zero_or_pos (p.space s) with h0 | hpos
      · have hwrite : p.write s data = (.error .wouldBlock, p) := by
          simp [write, hr, hd, h0]
        rw [p.ioWrite_of_error s hwrite]
        exact ⟨rfl, h0, rfl⟩
      · simp [ioWrite, write, hr, hd, Nat.ne_of_gt hpos, Except.mapError] at h
    · simp [ioWrite, write, hr, hd, Except.mapError] at h
  · have hwrite : p.write s data = (.error .closed, p) := by
      simp [write, hr]
    rw [p.ioWrite_of_error s hwrite] at h
    obtain rfl := Except.error.inj h
    cases he

end Blocked

/-- **The last of some moves was a transfer at the end `s` that would have blocked**, in the given
direction. -/
inductive EndsBlocked (p : Pipe) (s : Side) (moves : List Move) : Direction → Prop
  | read {before : List Move} {buffer : Bytes} {e : IoError}
      (hm : moves = before ++ [⟨s, .ioRead buffer⟩])
      (ha : ((p.after before).ioRead s buffer).1 = .error e) (he : e.kind = .wouldBlock) :
      EndsBlocked p s moves .read
  | write {before : List Move} {data : Bytes} {e : IoError}
      (hm : moves = before ++ [⟨s, .ioWrite data⟩])
      (ha : ((p.after before).ioWrite s data).1 = .error e) (he : e.kind = .wouldBlock) :
      EndsBlocked p s moves .write

/-- Moves that come before do not matter. -/
theorem EndsBlocked.cons {p p' : Pipe} {s : Side} {m : Move} {moves : List Move} {d : Direction}
    (hp : (p.step m).2 = p') (h : EndsBlocked p' s moves d) : EndsBlocked p s (m :: moves) d := by
  subst hp
  cases h with
  | @read before buffer e hm ha he =>
    have hm' : m :: moves = (m :: before) ++ [⟨s, .ioRead buffer⟩] := by
      rw [hm, List.cons_append]
    exact .read hm' ha he
  | @write before data e hm ha he =>
    have hm' : m :: moves = (m :: before) ++ [⟨s, .ioWrite data⟩] := by
      rw [hm, List.cons_append]
    exact .write hm' ha he

/-- **What is missing where a transfer would block**: something to read, or room to write. -/
def Missing (p : Pipe) (s : Side) : Direction → Prop
  | .read => p.inbound s = []
  | .write => p.space s = 0

/-- A blocked transfer is the last thing that happened, so what it missed is missing still. -/
theorem EndsBlocked.missing {p : Pipe} {s : Side} {moves : List Move} {d : Direction}
    (h : EndsBlocked p s moves d) :
    (p.after moves).isSiblingReleased s = false ∧ (p.after moves).Missing s d := by
  cases h with
  | @read before buffer e hm ha he =>
    obtain ⟨hlive, hnil, hsame⟩ := ioRead_wouldBlock ha he
    have hend : p.after moves = p.after before := by
      rw [hm, after_append]
      exact hsame
    rw [hend]
    exact ⟨hlive, hnil⟩
  | @write before data e hm ha he =>
    obtain ⟨hlive, hroom, hsame⟩ := ioWrite_wouldBlock ha he
    have hend : p.after moves = p.after before := by
      rw [hm, after_append]
      exact hsame
    rw [hend]
    exact ⟨hlive, hroom⟩

/-! ### What the other end can do about it -/

/-- **The owner of the end `s` can move bytes** in the given direction: to its sibling, if the
sibling lacks something to read, and from it, if it lacks room. -/
def Movable (p : Pipe) (s : Side) : Direction → Prop
  | .read => p.isReleased s = false ∧ p.space s = p.capacity ∧
      ∀ data : Bytes, data ≠ [] →
        (p.write s data).1 = .ok (min data.length p.capacity) ∧ 1 ≤ min data.length p.capacity
  | .write => p.isReleased s = false ∧ p.pending s = p.capacity ∧
      ∀ max : Nat, 1 ≤ max →
        ∃ bytes, (p.read s max).1 = .ok bytes ∧ bytes.length = min max p.capacity ∧
          1 ≤ bytes.length

/-- **Over a pipe that holds something, what one end lacks the other can give.** -/
theorem movable_of_missing {p : Pipe} (hp : p.Sound) (hcap : 1 ≤ p.capacity) {s : Side}
    (hs : p.isReleased s = false) (hlive : p.isSiblingReleased s = false) {d : Direction}
    (h : p.Missing s d) : p.Movable s.sibling d := by
  have hthere : p.isReleased s.sibling = false := hlive
  have hother : p.isSiblingReleased s.sibling = false := by
    rw [isSiblingReleased, Side.sibling_sibling]
    exact hs
  cases d with
  | read =>
    -- nothing waits, so all of the capacity is free
    have hnil : p.outbound s.sibling = [] := by
      rw [outbound, Side.sibling_sibling]
      exact h
    have hspace : p.space s.sibling = p.capacity := by
      rw [space, hnil, List.length_nil, Nat.sub_zero]
    refine ⟨hthere, hspace, fun data hd => ?_⟩
    have hlen : 1 ≤ data.length := List.length_pos_of_ne_nil hd
    refine ⟨?_, Nat.le_min.mpr ⟨hlen, hcap⟩⟩
    have hroom : p.capacity ≠ 0 := Nat.ne_of_gt hcap
    simp [write, hother, hd, hspace, hroom, Nat.min_comm]
  | write =>
    -- there is no room, so the queue is as long as it can be
    have hfull : p.pending s.sibling = p.capacity := by
      have hsum := hp.space_add_pending s
      have hnone : p.space s = 0 := h
      omega
    refine ⟨hthere, hfull, fun max hmax => ?_⟩
    have hlen : (p.inbound s.sibling).length = p.capacity := hfull
    have hne : p.inbound s.sibling ≠ [] := by
      intro hnil
      rw [hnil, List.length_nil] at hlen
      omega
    refine ⟨(p.inbound s.sibling).take (min max (p.inbound s.sibling).length),
      by simp [read, hother, hne], ?_, ?_⟩ <;>
    · rw [List.length_take, hlen]
      omega

end Pipe

end SocketlessTls
