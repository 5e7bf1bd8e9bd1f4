import Mathlib.Logic.Relation
import SocketlessTls.Proofs.Pipe.Agreement
import SocketlessTls.Proofs.Pipe.Calls
import SocketlessTls.Proofs.Pipe.Closing

/-!
# Writing everything

A write takes what fits and leaves the rest to whoever made it. Who wants all of the data to go
writes the rest again, and then the rest of that, turn by turn, until nothing is left or a write
fails. Such a loop is only as good as the writes that it is made of. If one asked to be made again,
and always did, the loop would have no end; if one took nothing, the loop could only give up; and
when one fails, those before it have already changed the pipe.

At an end of a pipe none of this goes wrong, as long as the owner of the other end does not move in
between. What the loop has queued so far and what is left make up the data, and what has been queued
stands, in order, behind what waited there before. This is an invariant of the loop
(`SocketlessTls.Pipe.Underway`), kept by every turn (`SocketlessTls.Pipe.Underway.again`), so that
all that is left to ask is where the loop comes to its end:

| what ends it | what has been queued by then | its answer |
|---|---|---|
| nothing is left | all of the data | success |
| there is no room | as much as there was room for at first | the write would block |
| the sibling is gone | nothing | the pipe is broken |

* `SocketlessTls.Pipe.Writing.turn_comes` – what one turn may come to, and there is nothing else;
* `SocketlessTls.Pipe.Writing.wellFounded_goesOn` – no loop goes on for ever;
* `SocketlessTls.Pipe.fitting_prefix_delivered` – what is queued is exactly the part that fits.
-/

namespace SocketlessTls

namespace Pipe

/-! ### The other end's queue -/

section Outbound

variable (p : Pipe) (s : Side) (queue : Bytes)

@[simp] theorem outbound_setOutbound : (p.setOutbound s queue).outbound s = queue :=
  p.inbound_setInbound s.sibling queue

@[simp] theorem setOutbound_outbound : p.setOutbound s (p.outbound s) = p :=
  p.setInbound_inbound s.sibling

@[simp] theorem setOutbound_setOutbound (later : Bytes) :
    (p.setOutbound s queue).setOutbound s later = p.setOutbound s later := by
  cases s <;> rfl

@[simp] theorem isSiblingReleased_setOutbound :
    (p.setOutbound s queue).isSiblingReleased s = p.isSiblingReleased s :=
  p.isReleased_setInbound s.sibling queue s.sibling

/-- Every byte that is queued takes its place away from those to come. -/
theorem space_setOutbound_append :
    (p.setOutbound s (p.outbound s ++ queue)).space s = p.space s - queue.length := by
  have hcapacity : (p.setOutbound s (p.outbound s ++ queue)).capacity = p.capacity :=
    p.capacity_setInbound s.sibling _
  rw [space, hcapacity, outbound_setOutbound, List.length_append, Nat.sub_add_eq, space]

end Outbound

/-! ### One turn -/

/-- No more bytes are reported as written than there were to write. -/
theorem le_length_of_write {p : Pipe} {s : Side} {data : Bytes} {n : Nat}
    (h : (p.write s data).1 = .ok n) : n ≤ data.length := by
  simp only [write] at h
  split_ifs at h with hgone hempty hroom
  · obtain rfl := Except.ok.inj h
    exact Nat.zero_le _
  · obtain rfl := Except.ok.inj h
    exact Nat.min_le_right _ _

namespace Writing

/-- **What one turn of the loop may come to.** -/
inductive Comes (s : Side) (w : Writing) : Turn → Prop
  /-- Nothing is left. -/
  | done (nothing : w.rest = []) : Comes s w (.ended (.ok ()) w.pipe)
  /-- Nobody is there to read what is left. -/
  | gone (something : w.rest ≠ []) (released : w.pipe.isSiblingReleased s = true) :
      Comes s w (.ended (.error ⟨.brokenPipe, some .closed⟩) w.pipe)
  /-- There is no room for what is left. -/
  | full (something : w.rest ≠ []) (live : w.pipe.isSiblingReleased s = false)
      (room : w.pipe.space s = 0) : Comes s w (.ended (.error ⟨.wouldBlock, none⟩) w.pipe)
  /-- A front part of what is left is queued. -/
  | put {bytes rest : Bytes} (front : w.rest = bytes ++ rest) (something : bytes ≠ [])
      (live : w.pipe.isSiblingReleased s = false) (fits : bytes.length ≤ w.pipe.space s) :
      Comes s w (.again ⟨w.pipe.setOutbound s (w.pipe.outbound s ++ bytes), rest⟩)

/-- **Every turn comes to one of these.** In particular no write of the loop takes nothing, and none
is interrupted. -/
theorem turn_comes (s : Side) (w : Writing) : Comes s w (w.turn s) := by
  by_cases hrest : w.rest = []
  · rw [turn, if_pos (by simp [hrest])]
    exact .done hrest
  rw [turn, if_neg (by simpa using hrest)]
  rcases w.pipe.write_cases s w.rest with ⟨e, hw⟩ | ⟨n, hroom, hlive, hw⟩
  · have hio := w.pipe.ioWrite_of_error s hw
    rw [hio]
    cases e with
    | wouldBlock =>
      obtain ⟨hlive, hfull, -⟩ := ioWrite_wouldBlock (congrArg Prod.fst hio) rfl
      exact .full hrest hlive hfull
    | closed =>
      refine .gone hrest ?_
      -- a write to an end that is there fails in the other way
      by_contra hlive
      cases error_of_write (by simpa using hlive) (congrArg Prod.fst hw)
  · have hio := w.pipe.ioWrite_of_ok s hw
    rw [hio]
    cases n with
    | zero => exact absurd (congrArg Prod.fst hio) (w.pipe.ioWrite_ne_zero s hrest)
    | succ n =>
      refine .put (List.take_append_drop (n + 1) w.rest).symm ?_ hlive ?_
      · simpa using hrest
      · exact Nat.le_trans (List.length_take_le _ _) hroom

/-- A loop that fails does so because there is no room, or because nobody is there. -/
theorem kind_of_ended {s : Side} {w : Writing} {e : IoError} {p : Pipe}
    (h : w.turn s = .ended (.error e) p) : e.kind = .wouldBlock ∨ e.kind = .brokenPipe := by
  have hcomes := w.turn_comes s
  rw [h] at hcomes
  cases hcomes with
  | gone => exact Or.inr rfl
  | full => exact Or.inl rfl

/-! ### Turn by turn -/

/-- One turn leads from one stage of the loop to the next. -/
def GoesOn (s : Side) (w next : Writing) : Prop := w.turn s = .again next

/-- **No loop goes on for ever**, for there is less to write after every turn. -/
theorem wellFounded_goesOn (s : Side) : WellFounded fun next w => GoesOn s w next :=
  Subrelation.wf (fun h => length_rest_lt h) (measure fun w : Writing => w.rest.length).wf

theorem finish_of_ended {s : Side} {w : Writing} {result : Except IoError Unit} {p : Pipe}
    (h : w.turn s = .ended result p) : w.finish s = (result, p) := by
  rw [finish]
  split
  case h_1 result' p' hended =>
    rw [h] at hended
    cases hended
    rfl
  case h_2 next hagain =>
    rw [h] at hagain
    cases hagain

theorem finish_of_goesOn {s : Side} {w next : Writing} (h : GoesOn s w next) :
    w.finish s = next.finish s := by
  rw [finish]
  split
  case h_1 result p hended =>
    rw [h] at hended
    cases hended
  case h_2 next' hagain =>
    rw [h] at hagain
    cases hagain
    rfl

/-- **From every stage the loop comes to its end**, and its answer is the one found there. -/
theorem exists_last (s : Side) (w : Writing) : ∃ last,
    Relation.ReflTransGen (GoesOn s) w last ∧
      last.turn s = .ended (w.finish s).1 (w.finish s).2 := by
  induction w using (wellFounded_goesOn s).induction with
  | _ w ih =>
    rcases hturn : w.turn s with next | ⟨result, p⟩
    · obtain ⟨last, hreached, hended⟩ := ih next hturn
      rw [finish_of_goesOn hturn]
      exact ⟨last, hreached.head hturn, hended⟩
    · rw [finish_of_ended hturn]
      exact ⟨w, .refl, hturn⟩

end Writing

/-! ### What the loop keeps -/

/-- **How far the loop has come.** What has been queued and what is left make up the data; what has
been queued had room and stands behind what waited before, and nothing else has changed. -/
structure Underway (p : Pipe) (s : Side) (data queued : Bytes) (w : Writing) : Prop where
  whole : queued ++ w.rest = data
  fits : queued.length ≤ p.space s
  pipe : w.pipe = p.setOutbound s (p.outbound s ++ queued)

namespace Underway

variable {p : Pipe} {s : Side} {data queued : Bytes} {w : Writing}

/-- At first nothing has been queued. -/
theorem start (p : Pipe) (s : Side) (data : Bytes) : Underway p s data [] ⟨p, data⟩ where
  whole := rfl
  fits := Nat.zero_le _
  pipe := by simp

theorem isSiblingReleased_eq (h : Underway p s data queued w) :
    w.pipe.isSiblingReleased s = p.isSiblingReleased s := by
  rw [h.pipe, isSiblingReleased_setOutbound]

theorem space_eq (h : Underway p s data queued w) :
    w.pipe.space s = p.space s - queued.length := by
  rw [h.pipe, space_setOutbound_append]

/-- **A turn after which the loop goes on queues some more bytes**, the next of the data. -/
theorem again (h : Underway p s data queued w) {next : Writing} (hnext : w.GoesOn s next) :
    ∃ bytes, bytes ≠ [] ∧ Underway p s data (queued ++ bytes) next := by
  have hcomes := w.turn_comes s
  rw [hnext] at hcomes
  cases hcomes with
  | @put bytes rest front something live fits =>
    refine ⟨bytes, something, ?_, ?_, ?_⟩
    · rw [List.append_assoc, ← front, h.whole]
    · have hroom := h.fits
      rw [h.space_eq] at fits
      rw [List.length_append]
      omega
    · simp [h.pipe]

/-- **At every stage the loop has come some way**, by induction on the turns that lead there. -/
theorem exists_of_reached (hw : Relation.ReflTransGen (Writing.GoesOn s) ⟨p, data⟩ w) :
    ∃ queued, Underway p s data queued w := by
  induction hw with
  | refl => exact ⟨[], start p s data⟩
  | tail _ hnext ih =>
    obtain ⟨queued, h⟩ := ih
    obtain ⟨bytes, -, hbytes⟩ := h.again hnext
    exact ⟨queued ++ bytes, hbytes⟩

/-- **Where the loop ends over a pipe that has both its ends**, all has been queued or there is no
room. -/
theorem ends (h : Underway p s data queued w) (hlive : p.isSiblingReleased s = false)
    {result : Except IoError Unit} {p' : Pipe} (hended : w.turn s = .ended result p') :
    p' = w.pipe ∧ (result = .ok () ∧ queued = data ∨
      result = .error ⟨.wouldBlock, none⟩ ∧ queued.length = p.space s ∧
        p.space s < data.length) := by
  have hcomes := w.turn_comes s
  rw [hended] at hcomes
  cases hcomes with
  | done nothing =>
    have hwhole := h.whole
    rw [nothing, List.append_nil] at hwhole
    exact ⟨rfl, Or.inl ⟨rfl, hwhole⟩⟩
  | gone _ released =>
    rw [h.isSiblingReleased_eq, hlive] at released
    exact Bool.noConfusion released
  | full something live room =>
    have hlength : 0 < w.rest.length := List.length_pos_iff.mpr something
    have hwhole := congrArg List.length h.whole
    have hfits := h.fits
    rw [h.space_eq] at room
    rw [List.length_append] at hwhole
    exact ⟨rfl, Or.inr ⟨rfl, by omega, by omega⟩⟩

/-- What has been queued is known from its length. -/
theorem eq_take (h : Underway p s data queued w) : queued = data.take queued.length := by
  rw [← h.whole, List.take_left]

end Underway

/-! ### The whole loop -/

section Whole

variable (p : Pipe) (s : Side)

/-- Nothing is written by no write at all. -/
theorem writeAll_nil : p.writeAll s [] = (.ok (), p) :=
  Writing.finish_of_ended rfl

/-- **To a sibling that is gone nothing is written.** -/
theorem writeAll_of_isSiblingReleased (hgone : p.isSiblingReleased s = true) {data : Bytes}
    (hdata : data ≠ []) : p.writeAll s data = (.error ⟨.brokenPipe, some .closed⟩, p) := by
  refine Writing.finish_of_ended ?_
  have hio := (deserted_of_isSiblingReleased hgone).ioWrite data
  rw [Writing.turn, if_neg (by simpa using hdata), hio]
  rfl

/-- **To a sibling that is there what fits is written**, and if that is not all, the answer is that
the write would block. -/
theorem writeAll_of_live (hlive : p.isSiblingReleased s = false) (data : Bytes) :
    (p.writeAll s data).2 =
        p.setOutbound s (p.outbound s ++ data.take (min data.length (p.space s))) ∧
      ((p.writeAll s data).1 = .ok () ∧ data.length ≤ p.space s ∨
        (p.writeAll s data).1 = .error ⟨.wouldBlock, none⟩ ∧ p.space s < data.length) := by
  obtain ⟨last, hreached, hended⟩ := Writing.exists_last s ⟨p, data⟩
  obtain ⟨queued, h⟩ := Underway.exists_of_reached hreached
  obtain ⟨hpipe, hend⟩ := h.ends hlive hended
  have hfits := h.fits
  have hlength : queued.length = min data.length (p.space s) := by
    rcases hend with ⟨-, rfl⟩ | ⟨-, hfull, hmore⟩ <;> omega
  constructor
  · rw [← hlength, ← h.eq_take, ← h.pipe]
    exact hpipe
  · rcases hend with ⟨hok, rfl⟩ | ⟨hblocked, -, hmore⟩
    · exact Or.inl ⟨hok, hfits⟩
    · exact Or.inr ⟨hblocked, hmore⟩

end Whole

/-- **What becomes of data that is to be written whole** at an end whose sibling does not move. -/
structure Delivery (p : Pipe) (s : Side) (data : Bytes) : Prop where
  /-- The loop does not go on for ever, -/
  terminates : Acc (fun next w => Writing.GoesOn s w next) ⟨p, data⟩
  /-- and where it ends it has the answer. -/
  answered : ∃ last, Relation.ReflTransGen (Writing.GoesOn s) ⟨p, data⟩ last ∧
    last.turn s = .ended (p.writeAll s data).1 (p.writeAll s data).2
  /-- On the way every byte of the data has been queued in its place, or is left; and every turn
  after which the loop goes on queues the next bytes. -/
  inOrder : ∀ w, Relation.ReflTransGen (Writing.GoesOn s) ⟨p, data⟩ w →
    ∃ queued, Underway p s data queued w ∧
      ∀ next, w.GoesOn s next → ∃ bytes, bytes ≠ [] ∧ Underway p s data (queued ++ bytes) next
  /-- No write is said to have taken more than there was left. -/
  within : ∀ w, Relation.ReflTransGen (Writing.GoesOn s) ⟨p, data⟩ w →
    ∀ n, (w.pipe.ioWrite s w.rest).1 = .ok n → n ≤ w.rest.length
  /-- The part of the data that fits is queued behind what waited, and nothing else changes. -/
  queued : p.isSiblingReleased s = false → (p.writeAll s data).2 =
    p.setOutbound s (p.outbound s ++ data.take (min data.length (p.space s)))
  ok_iff : p.isSiblingReleased s = false →
    ((p.writeAll s data).1 = .ok () ↔ data.length ≤ p.space s)
  blocked : p.isSiblingReleased s = false → p.space s < data.length →
    (p.writeAll s data).1 = .error ⟨.wouldBlock, none⟩
  /-- Where the sibling is gone, that is said, and nothing changes. -/
  gone : p.isSiblingReleased s = true → data ≠ [] →
    p.writeAll s data = (.error ⟨.brokenPipe, some .closed⟩, p)
  /-- To write nothing always succeeds. -/
  nothing : data = [] → p.writeAll s data = (.ok (), p)
  /-- The loop never has to give up over a write that took nothing. -/
  notZero : ∀ e, (p.writeAll s data).1 = .error e → e.kind ≠ .writeZero

/-- **Exactly the part of the data that fits is delivered**, whatever waits in the pipe, however
much data there is, and whoever is gone. -/
theorem fitting_prefix_delivered (p : Pipe) (s : Side) (data : Bytes) : Delivery p s data where
  terminates := (Writing.wellFounded_goesOn s).apply _
  answered := Writing.exists_last s ⟨p, data⟩
  inOrder w hw := by
    obtain ⟨queued, h⟩ := Underway.exists_of_reached hw
    exact ⟨queued, h, fun _ hnext => h.again hnext⟩
  within w _ n hn := le_length_of_write (((reworded_writeError _).ok n).mp hn)
  queued hlive := (p.writeAll_of_live s hlive data).1
  ok_iff hlive := by
    rcases (p.writeAll_of_live s hlive data).2 with ⟨hok, hfits⟩ | ⟨hblocked, hmore⟩
    · exact iff_of_true hok hfits
    · rw [hblocked]
      exact iff_of_false nofun (Nat.not_le_of_lt hmore)
  blocked hlive hmore := by
    rcases (p.writeAll_of_live s hlive data).2 with ⟨-, hfits⟩ | ⟨hblocked, -⟩
    · exact absurd hfits (Nat.not_le_of_lt hmore)
    · exact hblocked
  gone hgone hdata := p.writeAll_of_isSiblingReleased s hgone hdata
  nothing hdata := by
    rw [hdata]
    exact p.writeAll_nil s
  notZero e he := by
    obtain ⟨last, -, hended⟩ := Writing.exists_last s ⟨p, data⟩
    have hfailed : last.turn s = .ended (.error e) (p.writeAll s data).2 := by
      rw [← he]
      exact hended
    rcases Writing.kind_of_ended hfailed with hkind | hkind <;>
    · rw [hkind]
      decide

/-- Of three bytes two fit: they are queued, and the third is not. -/
example : (withCapacity 2).writeAll .caller [1, 2, 3] =
    (.error ⟨.wouldBlock, none⟩, ⟨2, [1, 2], [], false, false⟩) := by cbv

end Pipe

end SocketlessTls
