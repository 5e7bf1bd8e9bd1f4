import Mathlib.Data.List.Basic
import Mathlib.Tactic.SplitIfs
import SocketlessTls.Net.Address

/-!
# Where the gap goes

An IPv6 address is written with a gap in place of zeros, but an address may have several runs of
zeros and only one gap. **The gap goes to the longest run, and to the first of equal ones**
(`SocketlessTls.Net.longestZeroRun_isLongest`). The search goes along the groups once. What it keeps
is the run that ends where it stands, and the best of all runs before.

* `SocketlessTls.Net.ZerosAt` – so many zeros from a place on;
* `SocketlessTls.Net.ZeroRun.IsLongest` – the best run among groups;
* `SocketlessTls.Net.ZeroRun.IsOpen` – the run that ends with the groups;
* `SocketlessTls.Net.ZerosAt.split` – the groups before a run, the zeros, and the groups behind it.
-/

namespace SocketlessTls.Net

/-- **So many zeros from a place on.** -/
def ZerosAt (gs : List UInt16) (start length : ℕ) : Prop :=
  ∀ j < length, gs[start + j]? = some 0

namespace ZeroRun

/-- **The longest run of zeros among groups**, and the first of that length. -/
structure IsLongest (gs : List UInt16) (run : ZeroRun) : Prop where
  zeros : ZerosAt gs run.start run.length
  longest : ∀ {start length}, ZerosAt gs start length → length ≤ run.length
  first : ∀ {start}, 0 < run.length → ZerosAt gs start run.length → run.start ≤ start

/-- **The run of zeros that ends with the groups.** -/
structure IsOpen (gs : List UInt16) (run : ZeroRun) : Prop where
  zeros : ZerosAt gs run.start run.length
  ends : 0 < run.length → run.start + run.length = gs.length
  longest : ∀ {start length}, ZerosAt gs start length → start + length = gs.length →
    length ≤ run.length

end ZeroRun

section Zeros

variable {gs : List UInt16} {start length : ℕ} {g : UInt16}

theorem ZerosAt.le_length (h : ZerosAt gs start length) (hpos : 0 < length) :
    start + length ≤ gs.length := by
  have hlast := h (length - 1) (by omega)
  have hlt := (List.getElem?_eq_some_iff.mp hlast).1
  omega

/-- Zeros stay where they are when a group is added. -/
theorem ZerosAt.append (h : ZerosAt gs start length) : ZerosAt (gs ++ [g]) start length := by
  intro j hj
  have hget := h j hj
  rw [List.getElem?_append_left (List.getElem?_eq_some_iff.mp hget).1, hget]

/-- **Zeros when a group is added**: they were there before, or they end with that group, which is
zero then. -/
theorem ZerosAt.of_append (h : ZerosAt (gs ++ [g]) start length) :
    ZerosAt gs start length ∨
      (g = 0 ∧ start + length = gs.length + 1 ∧ ZerosAt gs start (length - 1)) := by
  have hbefore : ∀ {j}, j < length → start + j < gs.length → gs[start + j]? = some 0 :=
    fun hj hlt => by rw [← h _ hj, List.getElem?_append_left hlt]
  by_cases hend : length = 0 ∨ start + length ≤ gs.length
  · exact Or.inl fun j hj => hbefore hj (by omega)
  · have hle := h.le_length (by omega)
    rw [List.length_append, List.length_singleton] at hle
    have hlast := h (length - 1) (by omega)
    have hplace : start + (length - 1) = gs.length := by omega
    rw [hplace, List.getElem?_concat_length] at hlast
    exact Or.inr ⟨Option.some.inj hlast, by omega, fun j hj => hbefore (by omega) (by omega)⟩

end Zeros

/-! ### One group more -/

section Step

variable {gs : List UInt16} {current best : ZeroRun}

/-- A group that is not zero ends the run. -/
theorem ZeroRun.isOpen_of_ne {g : UInt16} (hg : g ≠ 0) : IsOpen (gs ++ [g]) ⟨0, 0⟩ where
  zeros := nofun
  ends := nofun
  longest {start length} h hend := by
    rcases h.of_append with hbefore | ⟨hzero, -⟩
    · rw [List.length_append, List.length_singleton] at hend
      by_contra hpos
      have hle := hbefore.le_length (Nat.pos_of_ne_zero fun h => hpos (Nat.le_of_eq h))
      omega
    · exact absurd hzero hg

/-- A group that is not zero changes nothing about the best run. -/
theorem ZeroRun.IsLongest.append_of_ne (h : IsLongest gs best) {g : UInt16} (hg : g ≠ 0) :
    IsLongest (gs ++ [g]) best where
  zeros := h.zeros.append
  longest hz := by
    rcases hz.of_append with hbefore | ⟨hzero, -⟩
    · exact h.longest hbefore
    · exact absurd hzero hg
  first hpos hz := by
    rcases hz.of_append with hbefore | ⟨hzero, -⟩
    · exact h.first hpos hbefore
    · exact absurd hzero hg

/-- The run that goes on with a zero at the given place, or starts with it. -/
def ZeroRun.extend (current : ZeroRun) (index : ℕ) : ZeroRun :=
  if current.length = 0 then ⟨index, 1⟩ else ⟨current.start, current.length + 1⟩

/-- A run that goes on is longer by one, and ends behind the zero. -/
theorem ZeroRun.IsOpen.extend_eq (h : IsOpen gs current) :
    (current.extend gs.length).length = current.length + 1 ∧
      (current.extend gs.length).start + current.length = gs.length := by
  unfold ZeroRun.extend
  split_ifs with hzero
  · exact ⟨by rw [hzero], by rw [hzero]; rfl⟩
  · exact ⟨rfl, h.ends (Nat.pos_of_ne_zero hzero)⟩

/-- **A zero makes the run that ends with it longer.** -/
theorem ZeroRun.IsOpen.extend (h : IsOpen gs current) :
    IsOpen (gs ++ [0]) (current.extend gs.length) := by
  obtain ⟨hlength, hends⟩ := h.extend_eq
  refine ⟨fun j hj => ?_, fun _ => ?_, fun {start length} hz hend => ?_⟩
  · by_cases hlast : j = current.length
    · rw [hlast, hends, List.getElem?_concat_length]
    · -- any other is in the run as it was
      have hstart : (current.extend gs.length).start = current.start := by
        rw [ZeroRun.extend, if_neg (by omega)]
      rw [hstart]
      exact h.zeros.append j (by omega)
  · rw [hlength, List.length_append, List.length_singleton]
    omega
  · rw [List.length_append, List.length_singleton] at hend
    rcases hz.of_append with hbefore | ⟨-, -, hbefore⟩
    · by_contra hlong
      have hle := hbefore.le_length (by omega)
      omega
    · rcases Nat.eq_zero_or_pos length with hzero | hpos
      · omega
      · have hle := h.longest hbefore (by omega)
        omega

/-- **The best run, when a zero is added**: the run that ends with it, if that is longer than the
best one before, and else that. -/
theorem ZeroRun.IsLongest.append_zero (h : IsLongest gs best) (hopen : IsOpen gs current) :
    IsLongest (gs ++ [0])
      (if (current.extend gs.length).length > best.length then current.extend gs.length
        else best) := by
  have hnew := hopen.extend
  have hlen : (gs ++ [0]).length = gs.length + 1 := by
    rw [List.length_append, List.length_singleton]
  split_ifs with hlonger
  · refine ⟨hnew.zeros, fun {start length} hz => ?_, fun {start} hpos hz => ?_⟩
    · rcases hz.of_append with hbefore | ⟨-, hend, -⟩
      · have hle := h.longest hbefore
        omega
      · exact hnew.longest hz (hend.trans hlen.symm)
    · rcases hz.of_append with hbefore | ⟨-, hend, -⟩
      · have hle := h.longest hbefore
        omega
      · have hends := hnew.ends hpos
        omega
  · refine ⟨h.zeros.append, fun {start length} hz => ?_, fun {start} hpos hz => ?_⟩
    · rcases hz.of_append with hbefore | ⟨-, hend, -⟩
      · exact h.longest hbefore
      · have hle := hnew.longest hz (hend.trans hlen.symm)
        omega
    · rcases hz.of_append with hbefore | ⟨-, hend, -⟩
      · exact h.first hpos hbefore
      · -- it would end behind the best one, and is not longer
        have hle := h.zeros.le_length hpos
        omega

end Step

/-! ### All groups -/

/-- The search along the groups that are left, by induction on these. -/
theorem longestZeroRun_spec (rest : List UInt16) {gs : List UInt16} {current best : ZeroRun}
    (hbest : ZeroRun.IsLongest gs best) (hopen : ZeroRun.IsOpen gs current) :
    ZeroRun.IsLongest (gs ++ rest) (longestZeroRun gs.length current best rest) := by
  induction rest generalizing gs current best with
  | nil => rwa [List.append_nil]
  | cons g rest ih =>
    have hindex : gs.length + 1 = (gs ++ [g]).length := by
      rw [List.length_append, List.length_singleton]
    rw [List.append_cons]
    by_cases hg : g = 0
    · subst hg
      have hstep : longestZeroRun gs.length current best (0 :: rest) =
          longestZeroRun (gs.length + 1) (current.extend gs.length)
            (if (current.extend gs.length).length > best.length then current.extend gs.length
              else best) rest := if_pos rfl
      rw [hstep, hindex]
      exact ih (hbest.append_zero hopen) hopen.extend
    · have hstep : longestZeroRun gs.length current best (g :: rest) =
          longestZeroRun (gs.length + 1) ⟨0, 0⟩ best rest := if_neg hg
      rw [hstep, hindex]
      exact ih (hbest.append_of_ne hg) (ZeroRun.isOpen_of_ne hg)

/-- **The writer finds the longest run of zeros**, and of equal ones the first. -/
theorem longestZeroRun_isLongest (gs : List UInt16) :
    ZeroRun.IsLongest gs (longestZeroRun 0 ⟨0, 0⟩ ⟨0, 0⟩ gs) := by
  have hnone : ZerosAt [] 0 0 := fun _ hj => absurd hj (Nat.not_lt_zero _)
  have hnil : ∀ {start length}, ZerosAt [] start length → length ≤ 0 := fun h => by
    by_contra hpos
    have hle := h.le_length (Nat.pos_of_ne_zero fun hzero => hpos (Nat.le_of_eq hzero))
    rw [List.length_nil] at hle
    omega
  exact longestZeroRun_spec gs
    ⟨hnone, hnil, fun hpos => absurd hpos (Nat.lt_irrefl 0)⟩
    ⟨hnone, fun hpos => absurd hpos (Nat.lt_irrefl 0), fun h _ => hnil h⟩

/-- **Around a run of zeros** there is what comes before it, and what is behind it. -/
theorem ZerosAt.split {gs : List UInt16} {start length : ℕ} (h : ZerosAt gs start length) :
    gs.take start ++ List.replicate length 0 ++ gs.drop (start + length) = gs := by
  have hzeros : (gs.drop start).take length = List.replicate length 0 := by
    refine List.ext_getElem? fun j => ?_
    by_cases hj : j < length
    · rw [List.getElem?_take_of_lt hj, List.getElem?_drop, h j hj, List.getElem?_replicate_of_lt hj]
    · rw [List.getElem?_take_eq_none (Nat.le_of_not_lt hj), eq_comm, List.getElem?_eq_none_iff,
        List.length_replicate]
      exact Nat.le_of_not_lt hj
  rw [← hzeros, List.append_assoc, ← List.drop_drop, List.take_append_drop, List.take_append_drop]

end SocketlessTls.Net
