import SocketlessTls.Proofs.Pipe.Closing

/-!
# What an endpoint has seen it can rely on

The owner of an end looks how much waits there, or how much room there is, and acts on it some time
later. In between the owner of the other end has made moves of its own, any number of them. Still
what was seen can be relied on, because each owner moves the queues in one direction only: behind
the back of an end bytes come to the queue that waits there, at its back, and leave the queue that
waits at the other end, at its front. The one thing that can go wrong in between is that the other
end is given up, and then this is said.

`SocketlessTls.Pipe.Rely` is what one end may rely on while the other moves. Each move of the other
end keeps to it (`SocketlessTls.Pipe.Effect.rely`), so any number of them do
(`SocketlessTls.Pipe.rely_behind`).

* `SocketlessTls.Pipe.write_of_fits`, `SocketlessTls.Pipe.read_of_pending`,
  `SocketlessTls.Pipe.readInto_of_pending` – a transfer for which there is room, or which finds
  enough, is made in full;
* `SocketlessTls.Pipe.seen_stays_usable` – and so it is after any moves of the other end.
-/

namespace SocketlessTls

namespace Pipe

/-! ### Transfers that are made in full -/

section Full

variable {p : Pipe} {s : Side} (h : p.isSiblingReleased s = false)
include h

/-- **Data that fits is written whole.** -/
theorem write_of_fits {data : Bytes} (hdata : data ≠ []) (hfits : data.length ≤ p.space s) :
    p.write s data = (.ok data.length, p.setOutbound s (p.outbound s ++ data)) := by
  have hlength : 0 < data.length := List.length_pos_iff.mpr hdata
  have hroom : p.space s ≠ 0 := by omega
  simp [write, h, hdata, hroom, Nat.min_eq_right hfits]

/-- **As much as is pending can be read.** -/
theorem read_of_pending {max : Nat} (hmax : 1 ≤ max) (hpending : max ≤ p.pending s) :
    p.read s max = (.ok ((p.inbound s).take max), p.setInbound s ((p.inbound s).drop max)) := by
  have hqueue : p.inbound s ≠ [] := List.ne_nil_of_length_pos (Nat.lt_of_lt_of_le hmax hpending)
  rw [pending] at hpending
  simp [read, h, hqueue, Nat.min_eq_left hpending]

/-- **A buffer no longer than what is pending is filled.** -/
theorem readInto_of_pending {buffer : Bytes} (hbuffer : buffer ≠ [])
    (hpending : buffer.length ≤ p.pending s) :
    p.readInto s buffer = (.ok buffer.length, (p.inbound s).take buffer.length,
      p.setInbound s ((p.inbound s).drop buffer.length)) := by
  have hlength : 0 < buffer.length := List.length_pos_iff.mpr hbuffer
  have hqueue : p.inbound s ≠ [] := List.ne_nil_of_length_pos (Nat.lt_of_lt_of_le hlength hpending)
  rw [pending] at hpending
  simp [readInto, h, hqueue, Nat.min_eq_left hpending]

end Full

/-! ### What the other end may do -/

/-- **What the end `a` can rely on** while its sibling moves. -/
structure Rely (a : Side) (p p' : Pipe) : Prop where
  capacity : p'.capacity = p.capacity
  /-- What waits here goes on waiting, and in front. -/
  inbound : p.inbound a <+: p'.inbound a
  /-- What waits there can only become less. -/
  outbound : p'.outbound a <:+ p.outbound a

namespace Rely

variable {a : Side} {p p' p'' : Pipe}

theorem refl (a : Side) (p : Pipe) : Rely a p p := ⟨rfl, List.prefix_rfl, List.suffix_rfl⟩

theorem trans (h : Rely a p p') (h' : Rely a p' p'') : Rely a p p'' where
  capacity := h'.capacity.trans h.capacity
  inbound := h.inbound.trans h'.inbound
  outbound := h'.outbound.trans h.outbound

/-- Room that was there is still there. -/
theorem space_le (h : Rely a p p') : p.space a ≤ p'.space a := by
  have hlength := h.outbound.length_le
  have hcapacity := h.capacity
  simp only [space]
  omega

/-- Bytes that were pending are still pending. -/
theorem pending_le (h : Rely a p p') : p.pending a ≤ p'.pending a := h.inbound.length_le

/-- And they are still the first. -/
theorem take_inbound (h : Rely a p p') {n : Nat} (hn : n ≤ p.pending a) :
    (p'.inbound a).take n = (p.inbound a).take n := by
  obtain ⟨more, hmore⟩ := h.inbound
  rw [← hmore, List.take_append_of_le_length hn]

end Rely

/-- **A move of the sibling keeps to what an end relies on.** -/
theorem Effect.rely {a q : Side} {p p' : Pipe} {w r : Bytes}
    (h : Effect p a.sibling q w r p') : Rely a p p' := by
  have hne : a ≠ a.sibling := (Side.sibling_ne a).symm
  cases h with
  | @take _ rest front =>
    refine ⟨p.capacity_setInbound _ _, ?_, ?_⟩
    · simp only [p.inbound_setInbound_of_ne _ _ hne, List.prefix_rfl]
    · rw [outbound, inbound_setInbound, outbound, front]
      exact List.suffix_append r rest
  | put fits live =>
    rw [setOutbound, outbound, Side.sibling_sibling]
    refine ⟨p.capacity_setInbound _ _, ?_, ?_⟩
    · rw [inbound_setInbound]
      exact List.prefix_append _ w
    · rw [outbound, p.inbound_setInbound_of_ne _ _ hne.symm]
      exact List.suffix_rfl
  | release =>
    refine ⟨p.capacity_release _, ?_, ?_⟩
    · simp only [p.inbound_release_of_ne _ hne, List.prefix_rfl]
    · rw [outbound, inbound_release]
      exact List.nil_suffix
  | nothing => exact .refl a p

/-! ### Behind the back of an end -/

/-- The pipe after its other end has acted, behind the back of the end `a`. -/
def behind (p : Pipe) (a : Side) (actions : List Action) : Pipe :=
  p.after (actions.map (Move.mk a.sibling))

/-- **Whatever the sibling does keeps to what an end relies on**, by induction on what it does. -/
theorem rely_behind (p : Pipe) (a : Side) (actions : List Action) :
    Rely a p (p.behind a actions) := by
  induction actions generalizing p with
  | nil => exact .refl a p
  | cons action actions ih =>
    have hstep : Rely a p (p.step ⟨a.sibling, action⟩).2 :=
      (p.step_effect ⟨a.sibling, action⟩).rely
    exact hstep.trans (ih _)

/-- Behind the back of an end its sibling goes only by being given up. -/
theorem isSiblingReleased_behind (p : Pipe) (a : Side) (actions : List Action) :
    (p.behind a actions).isSiblingReleased a = true ↔
      p.isSiblingReleased a = true ∨ .release ∈ actions := by
  rw [isSiblingReleased, behind, isReleased_after_iff, isSiblingReleased]
  simp

/-- **What an end has seen stays usable.** Take any pipe and either end of it, and let the owner of
the other end do anything, for as long as it likes. If that end is there afterwards, as much as
there was room for before can be written whole, and as much as was pending before can be read, and
is what was pending. If it is not, which means that it has been given up, everything is refused by
saying so. -/
theorem seen_stays_usable (p : Pipe) (a : Side) (actions : List Action) :
    let p' := p.behind a actions
    (p'.isSiblingReleased a = true ↔ p.isSiblingReleased a = true ∨ .release ∈ actions) ∧
    (p'.isSiblingReleased a = true → Deserted p' a) ∧
    (p'.isSiblingReleased a = false →
      (∀ data, data ≠ [] → data.length ≤ p.space a → (p'.write a data).1 = .ok data.length) ∧
      (∀ buffer, buffer ≠ [] → buffer.length ≤ p.pending a →
        (p'.readInto a buffer).1 = .ok buffer.length ∧
        (p'.readInto a buffer).2.1 = (p.inbound a).take buffer.length) ∧
      ∀ max, 1 ≤ max → max ≤ p.pending a →
        (p'.read a max).1 = .ok ((p.inbound a).take max)) := by
  intro p'
  have hrely : Rely a p p' := p.rely_behind a actions
  refine ⟨p.isSiblingReleased_behind a actions, deserted_of_isSiblingReleased, fun hlive =>
    ⟨fun data hdata hfits => ?_, fun buffer hbuffer hpending => ?_, fun max hmax hpending => ?_⟩⟩
  · rw [write_of_fits hlive hdata (Nat.le_trans hfits hrely.space_le)]
  · rw [readInto_of_pending hlive hbuffer (Nat.le_trans hpending hrely.pending_le)]
    exact ⟨rfl, hrely.take_inbound hpending⟩
  · rw [read_of_pending hlive hmax (Nat.le_trans hpending hrely.pending_le),
      hrely.take_inbound hpending]

end Pipe

end SocketlessTls
