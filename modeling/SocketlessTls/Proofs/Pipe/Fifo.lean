import Mathlib.Data.List.Basic
import Mathlib.Tactic.SplitIfs
import SocketlessTls.Proofs.Pipe.Moves

/-!
# A pipe is a bounded queue in either direction

The two owners of a pipe make moves in any order and for as long as they like. In the direction from
an end `a` to its sibling `b` this leaves two byte strings behind: what the writes at `a` reported
as accepted, and what the reads at `b` handed over. The file relates both to the queue that waits
at `b`.

The relation is a balance, and it is kept in a form that does not speak of the beginning: *what
waited plus what was accepted is what was delivered plus what waits*. In this form it holds of a
single move (`SocketlessTls.Pipe.Effect.balance`), adds up along any moves from any pipe
(`SocketlessTls.Pipe.balance`), and says at an empty pipe that nothing is lost, doubled or
reordered. It ends with the release of `b`, which throws the queue away; from then on nothing is
accepted and nothing delivered, so of the balance a prefix remains
(`SocketlessTls.Pipe.delivered_prefix`).

Moves at an end that has been given up have nobody to make them. Nothing below depends on that, so
they are not excluded.

* `SocketlessTls.Pipe.Sound` – what every move preserves: queues are bounded, and nothing waits at
  an end that is gone;
* `SocketlessTls.Pipe.first_in_first_out` – all of it, from a fresh pipe.
-/

namespace SocketlessTls

namespace Pipe

/-! ### What every move preserves -/

/-- **The invariant of a pipe.** -/
structure Sound (p : Pipe) : Prop where
  /-- A queue never exceeds the capacity, so that what is left of it is a number. -/
  bounded : ∀ s, p.pending s ≤ p.capacity
  /-- Nothing waits at an end that is gone. -/
  cleared : ∀ s, p.isReleased s = true → p.inbound s = []

theorem sound_withCapacity (capacity : Nat) : (withCapacity capacity).Sound where
  bounded s := by cases s <;> exact Nat.zero_le _
  cleared s _ := by cases s <;> rfl

/-- What may still be written and what waits make up the capacity. -/
theorem Sound.space_add_pending {p : Pipe} (h : p.Sound) (s : Side) :
    p.space s + p.pending s.sibling = p.capacity :=
  Nat.sub_add_cancel (h.bounded s.sibling)

namespace Effect

variable {p p' : Pipe} {s q : Side} {w r : Bytes}

/-- **A move leaves the queue of the other direction alone.** -/
theorem inbound_of_ne (h : Effect p s q w r p') {t : Side} (ht : t ≠ q) :
    p'.inbound t = p.inbound t := by
  cases h with
  | take _ => exact p.inbound_setInbound_of_ne s _ ht
  | put _ _ => exact p.inbound_setInbound_of_ne s.sibling _ ht
  | release => exact p.inbound_release_of_ne s ht
  | nothing => rfl

theorem capacity_eq (h : Effect p s q w r p') : p'.capacity = p.capacity := by
  cases h with
  | take _ => exact p.capacity_setInbound s _
  | put _ _ => exact p.capacity_setInbound s.sibling _
  | release => exact p.capacity_release s
  | nothing => rfl

/-- No move but a release changes which ends are there. -/
theorem isReleased_eq (h : Effect p s q w r p') (t : Side) :
    p'.isReleased t = p.isReleased t ∨ (t = s ∧ p' = p.release s) := by
  cases h with
  | take _ => exact Or.inl (p.isReleased_setInbound s _ t)
  | put _ _ => exact Or.inl (p.isReleased_setInbound s.sibling _ t)
  | release =>
    rcases eq_or_ne t s with rfl | ht
    · exact Or.inr ⟨rfl, rfl⟩
    · exact Or.inl (p.isReleased_release_of_ne s ht)
  | nothing => exact Or.inl rfl

/-- An end that is gone stays gone. -/
theorem isReleased_of_isReleased (h : Effect p s q w r p') {t : Side}
    (ht : p.isReleased t = true) : p'.isReleased t = true := by
  rcases h.isReleased_eq t with he | ⟨rfl, rfl⟩
  · rw [he]
    exact ht
  · exact p.isReleased_release t

/-- **The balance of one move**, in the direction to `b`: what waited and what the other end
accepted is what was delivered and what waits. -/
theorem balance (h : Effect p s q w r p') {b : Side} (hb : p'.isReleased b = false) :
    p.inbound b ++ (if s = b.sibling then w else []) =
      (if s = b then r else []) ++ p'.inbound b := by
  cases h with
  | @take bytes rest front =>
    rcases eq_or_ne s b with rfl | hs
    · simpa using front
    · rw [p.inbound_setInbound_of_ne s rest (Ne.symm hs)]
      simp [hs]
  | @put bytes fits live =>
    rcases eq_or_ne s b with rfl | hs
    · rw [setOutbound, p.inbound_setInbound_of_ne s.sibling _ (Side.sibling_ne s).symm]
      simp [(Side.sibling_ne s).symm]
    · obtain rfl : s = b.sibling := Side.eq_sibling_of_ne hs
      simp [setOutbound, outbound, Side.sibling_ne]
  | release =>
    have hs : b ≠ s := by
      rintro rfl
      simp at hb
    simp [p.inbound_release_of_ne s hs]
  | nothing => simp

/-- A queue within the capacity stays within it: only what fits is put. -/
theorem pending_le (h : Effect p s q w r p') {t : Side} (ht : p.pending t ≤ p.capacity) :
    p'.pending t ≤ p.capacity := by
  cases h with
  | @take bytes rest front =>
    rcases eq_or_ne t s with rfl | hts
    · have hlen := congrArg List.length front
      rw [List.length_append] at hlen
      simp only [pending, inbound_setInbound] at ht ⊢
      omega
    · rwa [pending, p.inbound_setInbound_of_ne s _ hts]
  | @put bytes fits live =>
    rcases eq_or_ne t s.sibling with rfl | hts
    · simp only [pending, space, setOutbound, outbound, inbound_setInbound,
        List.length_append] at ht fits ⊢
      omega
    · rwa [pending, setOutbound, p.inbound_setInbound_of_ne s.sibling _ hts]
  | release =>
    rcases eq_or_ne t s with rfl | hts
    · simp [pending]
    · rwa [pending, p.inbound_release_of_ne s hts]
  | nothing => exact ht

/-- A queue that is empty because its end is gone stays empty: nothing is put there. -/
theorem inbound_eq_nil (h : Effect p s q w r p') {t : Side} (hp : p.isReleased t = true)
    (hnil : p.inbound t = []) : p'.inbound t = [] := by
  cases h with
  | @take bytes rest front =>
    rcases eq_or_ne t s with rfl | hts
    · rw [front, List.append_eq_nil_iff] at hnil
      rw [inbound_setInbound, hnil.2]
    · rwa [p.inbound_setInbound_of_ne s _ hts]
  | @put bytes fits live =>
    have hts : t ≠ s.sibling := by
      rintro rfl
      rw [isSiblingReleased, hp] at live
      exact Bool.noConfusion live
    rwa [setOutbound, p.inbound_setInbound_of_ne s.sibling _ hts]
  | release =>
    rcases eq_or_ne t s with rfl | hts
    · exact p.inbound_release t
    · rwa [p.inbound_release_of_ne s hts]
  | nothing => exact hnil

/-- Every move preserves the invariant. -/
theorem sound (h : Effect p s q w r p') (hp : p.Sound) : p'.Sound where
  bounded t := h.capacity_eq ▸ h.pending_le (hp.bounded t)
  cleared t ht := by
    rcases h.isReleased_eq t with he | ⟨rfl, rfl⟩
    · rw [he] at ht
      exact h.inbound_eq_nil ht (hp.cleared t ht)
    · exact p.inbound_release t

/-- **Nothing is accepted for an end that is gone.** -/
theorem accepted_eq_nil (h : Effect p s q w r p') (hs : p.isReleased s.sibling = true) :
    w = [] := by
  cases h with
  | put fits live =>
    rw [isSiblingReleased, hs] at live
    exact Bool.noConfusion live
  | take _ => rfl
  | release => rfl
  | nothing => rfl

/-- **Nothing is delivered at an end that is gone.** -/
theorem delivered_eq_nil (h : Effect p s q w r p') (hp : p.Sound)
    (hs : p.isReleased s = true) : r = [] := by
  cases h with
  | take front =>
    rw [hp.cleared s hs] at front
    exact (List.append_eq_nil_iff.mp front.symm).1
  | put _ _ => rfl
  | release => rfl
  | nothing => rfl

/-- What is delivered comes from the front of the mover's queue. -/
theorem delivered_prefix_inbound (h : Effect p s q w r p') : r <+: p.inbound s := by
  cases h with
  | @take bytes rest front => exact ⟨rest, front.symm⟩
  | put _ _ => exact List.nil_prefix
  | release => exact List.nil_prefix
  | nothing => exact List.nil_prefix

end Effect

/-! ### Any moves -/

/-- The pipe after some moves. -/
def after (p : Pipe) (moves : List Move) : Pipe := moves.foldl (fun p m => (p.step m).2) p

/-- All that the writes at an end report as accepted in the course of some moves. -/
def accepted (p : Pipe) (a : Side) : List Move → Bytes
  | [] => []
  | m :: moves =>
    (if m.side = a then m.action.accepted (p.step m).1 else []) ++ (p.step m).2.accepted a moves

/-- All that the reads at an end hand over in the course of some moves. -/
def delivered (p : Pipe) (b : Side) : List Move → Bytes
  | [] => []
  | m :: moves =>
    (if m.side = b then (p.step m).1.delivered else []) ++ (p.step m).2.delivered b moves

@[simp] theorem after_nil (p : Pipe) : p.after [] = p := rfl

@[simp] theorem after_cons (p : Pipe) (m : Move) (moves : List Move) :
    p.after (m :: moves) = (p.step m).2.after moves := rfl

theorem after_append (p : Pipe) (moves later : List Move) :
    p.after (moves ++ later) = (p.after moves).after later :=
  List.foldl_append

theorem accepted_append (p : Pipe) (a : Side) (moves later : List Move) :
    p.accepted a (moves ++ later) = p.accepted a moves ++ (p.after moves).accepted a later := by
  induction moves generalizing p with
  | nil => rfl
  | cons m moves ih => simp [accepted, ih]

theorem capacity_after (p : Pipe) (moves : List Move) :
    (p.after moves).capacity = p.capacity := by
  induction moves generalizing p with
  | nil => rfl
  | cons m moves ih => rw [after_cons, ih, (p.step_effect m).capacity_eq]

theorem Sound.after {p : Pipe} (h : p.Sound) (moves : List Move) : (p.after moves).Sound := by
  induction moves generalizing p with
  | nil => exact h
  | cons m moves ih => exact ih ((p.step_effect m).sound h)

/-- **An end is gone after any moves if it was gone before or has been given up by one of them.** -/
theorem isReleased_after_iff (p : Pipe) (t : Side) (moves : List Move) :
    (p.after moves).isReleased t = true ↔ p.isReleased t = true ∨ ⟨t, .release⟩ ∈ moves := by
  induction moves generalizing p with
  | nil => simp
  | cons m moves ih =>
    rw [after_cons, ih, isReleased_step_iff, List.mem_cons, or_assoc, @eq_comm _ m]

/-- An end that is gone stays gone. -/
theorem isReleased_after {p : Pipe} {t : Side} (h : p.isReleased t = true) (moves : List Move) :
    (p.after moves).isReleased t = true :=
  (p.isReleased_after_iff t moves).mpr (Or.inl h)

/-- **The balance of any moves**, as long as the reading end is there. -/
theorem balance (p : Pipe) (b : Side) (moves : List Move)
    (hb : (p.after moves).isReleased b = false) :
    p.inbound b ++ p.accepted b.sibling moves =
      p.delivered b moves ++ (p.after moves).inbound b := by
  induction moves generalizing p with
  | nil => simp [accepted, delivered]
  | cons m moves ih =>
    have hstep : (p.step m).2.isReleased b = false := by
      by_contra hc
      rw [after_cons, isReleased_after (by simpa using hc) moves] at hb
      exact Bool.noConfusion hb
    have hone := (p.step_effect m).balance hstep
    rw [accepted, delivered, ← List.append_assoc, hone, List.append_assoc, ih _ hb,
      List.append_assoc, after_cons]

/-- For an end that is gone nothing is accepted any more. -/
theorem accepted_of_isReleased {p : Pipe} {a : Side} (h : p.isReleased a.sibling = true)
    (moves : List Move) : p.accepted a moves = [] := by
  induction moves generalizing p with
  | nil => rfl
  | cons m moves ih =>
    have heff := p.step_effect m
    rw [accepted, ih (heff.isReleased_of_isReleased h), List.append_nil]
    split_ifs with hm
    · exact heff.accepted_eq_nil (hm ▸ h)
    · rfl

/-- At an end that is gone nothing is delivered any more. -/
theorem delivered_of_isReleased {p : Pipe} {b : Side} (hp : p.Sound)
    (h : p.isReleased b = true) (moves : List Move) : p.delivered b moves = [] := by
  induction moves generalizing p with
  | nil => rfl
  | cons m moves ih =>
    have heff := p.step_effect m
    rw [delivered, ih (heff.sound hp) (heff.isReleased_of_isReleased h), List.append_nil]
    split_ifs with hm
    · exact heff.delivered_eq_nil hp (hm ▸ h)
    · rfl

/-- **What is delivered is a prefix of what waited and what was accepted**, whether or not the
reading end is given up on the way. -/
theorem delivered_prefix {p : Pipe} (hp : p.Sound) (b : Side) (moves : List Move) :
    p.delivered b moves <+: p.inbound b ++ p.accepted b.sibling moves := by
  induction moves generalizing p with
  | nil => simp [delivered]
  | cons m moves ih =>
    have heff := p.step_effect m
    have hsound := heff.sound hp
    rcases hstep : (p.step m).2.isReleased b with _ | _
    · rw [accepted, delivered, ← List.append_assoc, heff.balance hstep, List.append_assoc]
      exact (List.prefix_append_right_inj _).mpr (ih hsound)
    · -- the queue is gone by now, so this move is the last that can have delivered anything
      rw [delivered, delivered_of_isReleased hsound hstep, List.append_nil]
      refine List.IsPrefix.trans ?_ (List.prefix_append _ _)
      split_ifs with hm
      · exact hm ▸ heff.delivered_prefix_inbound
      · exact List.nil_prefix

/-! ### The whole story -/

/-- **A pipe is a bounded queue in either direction.** Take a fresh pipe of any capacity, any moves
of its two owners in any order, and the direction from `a` to its sibling. While the reading end is
there, what was accepted is exactly what was delivered followed by what waits; once it is gone, its
queue is empty for good, nothing more is accepted, and what was delivered is a prefix of what was
accepted. At any time the queue keeps to the capacity, room and queue make up the capacity, and a
move that is about the other direction leaves the queue as it is. -/
theorem first_in_first_out (capacity : Nat) (moves : List Move) (a : Side) :
    let start := withCapacity capacity
    let p := start.after moves
    (p.isReleased a.sibling = false →
      start.accepted a moves = start.delivered a.sibling moves ++ p.inbound a.sibling) ∧
    (p.isReleased a.sibling = true →
      start.delivered a.sibling moves <+: start.accepted a moves ∧
      ∀ later, (start.after (moves ++ later)).inbound a.sibling = [] ∧
        start.accepted a (moves ++ later) = start.accepted a moves) ∧
    p.capacity = max capacity 1 ∧
    p.pending a.sibling ≤ max capacity 1 ∧
    p.space a + p.pending a.sibling = p.capacity ∧
    ∀ m : Move, m.queue ≠ a.sibling → (p.step m).2.inbound a.sibling = p.inbound a.sibling := by
  intro start p
  have hstart : start.Sound := sound_withCapacity capacity
  have hp : p.Sound := hstart.after moves
  have hempty : start.inbound a.sibling = [] := by cases a <;> rfl
  have hcap : p.capacity = max capacity 1 := capacity_after start moves
  refine ⟨fun hb => ?_, fun hb => ⟨?_, fun later => ⟨?_, ?_⟩⟩, hcap, ?_, ?_, fun m hm => ?_⟩
  · have h := start.balance a.sibling moves hb
    rwa [hempty, List.nil_append, Side.sibling_sibling] at h
  · have h := delivered_prefix hstart a.sibling moves
    rwa [hempty, List.nil_append, Side.sibling_sibling] at h
  · exact (hstart.after _).cleared _ (by
      rw [after_append]
      exact isReleased_after hb later)
  · rw [accepted_append, accepted_of_isReleased hb, List.append_nil]
  · exact hcap ▸ hp.bounded a.sibling
  · exact hp.space_add_pending a
  · exact (p.step_effect m).inbound_of_ne hm.symm

end Pipe

end SocketlessTls
