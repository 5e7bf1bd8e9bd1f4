import Mathlib.Data.List.TakeDrop
import Mathlib.Data.List.TakeWhile
import Mathlib.Tactic.SplitIfs
import SocketlessTls.Net.Address

/-!
# The words of an internet address

An internet address is written in words: decimal numbers with dots between them, hexadecimal groups
with colons. Which words these are is a matter of their characters alone. The reader, in contrast,
goes along the text: it takes as many digits as there are and then looks at what it has got. So it
does not find a word wherever one stands, but only where no digit follows.

`SocketlessTls.Net.Takes` says both at once: a reader *takes* the words of a kind, each up to where
something follows that may follow. It is an equivalence, so that a reader that fails tells as much
as one that succeeds. That is what an address needs, whose reader goes back and tries another kind
of word wherever one has failed.

* `SocketlessTls.Net.IsOctet`, `IsGroup`, `IsDotted` – the words, and four octets with dots;
* `SocketlessTls.Net.readOctet_takes`, `readGroup_takes`, `readV4_takes` – the reader of each.
-/

namespace SocketlessTls.Net

/-! ### Words -/

/-- A decimal digit. -/
def IsDecimal (c : Char) : Prop := '0' ≤ c ∧ c ≤ '9'

/-- A hexadecimal digit of either case. -/
def IsHex (c : Char) : Prop := IsDecimal c ∨ ('a' ≤ c ∧ c ≤ 'f') ∨ ('A' ≤ c ∧ c ≤ 'F')

/-- **A number from 0 to 255** in one to three decimal digits, without a leading zero. -/
structure IsOctet (w : List Char) : Prop where
  digits : ∀ c ∈ w, IsDecimal c
  pos : 1 ≤ w.length
  short : w.length ≤ 3
  leading : 2 ≤ w.length → w.head? ≠ some '0'
  value : Nat.ofDigitChars 10 w 0 ≤ 255

/-- **A group** of one to four hexadecimal digits. -/
structure IsGroup (w : List Char) : Prop where
  digits : ∀ c ∈ w, IsHex c
  pos : 1 ≤ w.length
  short : w.length ≤ 4

/-- **Four numbers with dots between them.** -/
def IsDotted (w : List Char) : Prop :=
  ∃ a b c d, IsOctet a ∧ IsOctet b ∧ IsOctet c ∧ IsOctet d ∧ w = ['.'].intercalate [a, b, c, d]

/-! ### Digits -/

/-- **The value of a digit**: less than ten if it is a decimal one, and at least that if it is a
letter. -/
theorem hexValue?_cases (c : Char) :
    (IsDecimal c ∧ Bytes.hexValue? c = some (c.toNat - '0'.toNat) ∧ c.toNat - '0'.toNat < 10) ∨
    (¬IsDecimal c ∧ IsHex c ∧ ∃ v, Bytes.hexValue? c = some v ∧ 10 ≤ v ∧ v < 16) ∨
    (¬IsDecimal c ∧ ¬IsHex c ∧ Bytes.hexValue? c = none) := by
  by_cases hd : IsDecimal c
  · have hle : c.toNat ≤ 57 := hd.2
    have hlt : c.toNat - 48 < 10 := by omega
    exact Or.inl ⟨hd, if_pos hd, hlt⟩
  have hv : Bytes.hexValue? c = if 'a' ≤ c ∧ c ≤ 'f' then some (c.toNat - 87)
    else if 'A' ≤ c ∧ c ≤ 'F' then some (c.toNat - 55) else none := if_neg hd
  by_cases hlower : 'a' ≤ c ∧ c ≤ 'f'
  · have hle : 97 ≤ c.toNat ∧ c.toNat ≤ 102 := hlower
    exact Or.inr (Or.inl ⟨hd, Or.inr (Or.inl hlower), _, hv.trans (if_pos hlower), by omega,
      by omega⟩)
  rw [if_neg hlower] at hv
  by_cases hupper : 'A' ≤ c ∧ c ≤ 'F'
  · have hle : 65 ≤ c.toNat ∧ c.toNat ≤ 70 := hupper
    exact Or.inr (Or.inl ⟨hd, Or.inr (Or.inr hupper), _, hv.trans (if_pos hupper), by omega,
      by omega⟩)
  · refine Or.inr (Or.inr ⟨hd, ?_, hv.trans (if_neg hupper)⟩)
    rintro (h | h | h)
    · exact hd h
    · exact hlower h
    · exact hupper h

/-- The value of a decimal digit. -/
theorem digit?_ten_of_isDecimal {c : Char} (h : IsDecimal c) :
    digit? 10 c = some (c.toNat - '0'.toNat) := by
  rcases hexValue?_cases c with ⟨-, hv, hlt⟩ | ⟨hno, -⟩ | ⟨hno, -⟩
  · simp only [digit?, hv, if_pos hlt]
  · exact absurd h hno
  · exact absurd h hno

/-- The digits in base ten are the decimal ones. -/
theorem isSome_digit?_ten (c : Char) : (digit? 10 c).isSome = true ↔ IsDecimal c := by
  rcases hexValue?_cases c with ⟨hd, -⟩ | ⟨hd, -, v, hv, hten, -⟩ | ⟨hd, -, hv⟩
  · rw [digit?_ten_of_isDecimal hd]
    exact iff_of_true rfl hd
  · have hnot : ¬v < 10 := by omega
    simp only [digit?, hv, if_neg hnot]
    exact iff_of_false Bool.false_ne_true hd
  · simp only [digit?, hv]
    exact iff_of_false Bool.false_ne_true hd

/-- The digits in base sixteen are the hexadecimal ones. -/
theorem isSome_digit?_sixteen (c : Char) : (digit? 16 c).isSome = true ↔ IsHex c := by
  rcases hexValue?_cases c with ⟨hd, hv, hten⟩ | ⟨-, hx, v, hv, -, hlt⟩ | ⟨-, hx, hv⟩
  · have hlt : c.toNat - '0'.toNat < 16 := Nat.lt_of_lt_of_le hten (by decide)
    simp only [digit?, hv, if_pos hlt]
    exact iff_of_true rfl (Or.inl hd)
  · simp only [digit?, hv, if_pos hlt]
    exact iff_of_true rfl hx
  · simp only [digit?, hv]
    exact iff_of_false Bool.false_ne_true hx

/-- The number that decimal digits spell. -/
theorem digitsValue_ten {w : List Char} (h : ∀ c ∈ w, IsDecimal c) :
    digitsValue 10 w = Nat.ofDigitChars 10 w 0 := by
  have hfold : ∀ n, w.foldl (fun acc c => acc * 10 + (digit? 10 c).getD 0) n =
      Nat.ofDigitChars 10 w n := by
    induction w with
    | nil => exact fun _ => rfl
    | cons c w ih =>
      intro n
      obtain ⟨hc, hw⟩ := List.forall_mem_cons.mp h
      rw [List.foldl_cons, ih hw, Nat.ofDigitChars_cons, digit?_ten_of_isDecimal hc, Nat.mul_comm]
      rfl
  exact hfold 0

/-! ### What a reader takes -/

/-- No character of a kind is next. -/
def NotNext (P : Char → Prop) (rest : List Char) : Prop := ∀ c, rest.head? = some c → ¬P c

/-- **A reader takes the words of a kind**, each up to where something follows that may follow. -/
def Takes {α : Type} (read : Reader α) (Word Follow : List Char → Prop) : Prop :=
  ∀ cs rest, (∃ a, read cs = some (a, rest)) ↔ ∃ w, cs = w ++ rest ∧ Word w ∧ Follow rest

/-- A reader fails where it can take no word. -/
theorem Takes.eq_none {α : Type} {read : Reader α} {Word Follow : List Char → Prop}
    (h : Takes read Word Follow) {cs : List Char}
    (hno : ∀ w rest, cs = w ++ rest → Word w → ¬Follow rest) : read cs = none := by
  rcases hr : read cs with _ | ⟨a, rest⟩
  · rfl
  · obtain ⟨w, hcs, hw, hf⟩ := (h cs rest).mp ⟨a, hr⟩
    exact absurd hf (hno w rest hcs hw)

section Runs

variable {P : Char → Prop} {base : ℕ} (hP : ∀ c, (digit? base c).isSome = true ↔ P c)
include hP

/-- **A run of digits goes as far as there are digits.** -/
theorem digitRun_eq_iff (cs ds rest : List Char) :
    digitRun base cs = (ds, rest) ↔ cs = ds ++ rest ∧ (∀ c ∈ ds, P c) ∧ NotNext P rest := by
  rw [digitRun, List.span_eq_takeWhile_dropWhile, Prod.mk.injEq]
  constructor
  · rintro ⟨rfl, rfl⟩
    refine ⟨List.takeWhile_append_dropWhile.symm, fun c hc => ?_, fun c hc hPc => ?_⟩
    · exact (hP c).mp (List.mem_takeWhile_imp (p := fun c => (digit? base c).isSome) hc)
    · have hstop := List.head?_dropWhile_not (fun c => (digit? base c).isSome) cs
      rw [hc] at hstop
      exact Bool.noConfusion (hstop.symm.trans ((hP c).mpr hPc))
  · rintro ⟨rfl, hds, hnext⟩
    have hall : ∀ c ∈ ds, (digit? base c).isSome = true := fun c hc => (hP c).mpr (hds c hc)
    rw [List.takeWhile_append_of_pos hall, List.dropWhile_append_of_pos hall]
    rcases rest with _ | ⟨c, rest⟩
    · exact ⟨List.append_nil ds, rfl⟩
    · have hc : ¬(digit? base c).isSome = true := fun h => hnext c rfl ((hP c).mp h)
      simp [hc]

/-- A reader that looks at a run of digits takes what it finds good, up to the next character that
is no digit. -/
theorem takes_of_digitRun {α : Type} {read : Reader α} {Word : List Char → Prop}
    (hword : ∀ w, Word w → ∀ c ∈ w, P c)
    (hread : ∀ cs ds rest, digitRun base cs = (ds, rest) → (∀ c ∈ ds, P c) →
      (Word ds ∧ ∃ a, read cs = some (a, rest)) ∨ (¬Word ds ∧ read cs = none)) :
    Takes read Word (NotNext P) := by
  intro cs rest
  rcases hrun : digitRun base cs with ⟨ds, rest₀⟩
  obtain ⟨hcs, hds, hnext⟩ := (digitRun_eq_iff hP cs ds rest₀).mp hrun
  -- a word at the front of the text is the run
  have hfront : ∀ w, cs = w ++ rest → Word w → NotNext P rest → ds = w ∧ rest₀ = rest :=
    fun w hcs' hw hnext' => Prod.mk.inj (hrun.symm.trans
      ((digitRun_eq_iff hP cs w rest).mpr ⟨hcs', hword w hw, hnext'⟩))
  rcases hread cs ds rest₀ hrun hds with ⟨hw, a, hr⟩ | ⟨hw, hr⟩
  · constructor
    · rintro ⟨a', hr'⟩
      obtain ⟨-, rfl⟩ := Prod.mk.inj (Option.some.inj (hr.symm.trans hr'))
      exact ⟨ds, hcs, hw, hnext⟩
    · rintro ⟨w, hcs', hw', hnext'⟩
      obtain ⟨-, rfl⟩ := hfront w hcs' hw' hnext'
      exact ⟨a, hr⟩
  · constructor
    · rintro ⟨a', hr'⟩
      cases hr.symm.trans hr'
    · rintro ⟨w, hcs', hw', hnext'⟩
      obtain ⟨rfl, -⟩ := hfront w hcs' hw' hnext'
      exact absurd hw' hw

end Runs

/-- **The reader of octets takes octets**, where no decimal digit follows. -/
theorem readOctet_takes : Takes readOctet IsOctet (NotNext IsDecimal) := by
  refine takes_of_digitRun isSome_digit?_ten (fun w hw => hw.digits) ?_
  intro cs ds rest hrun hds
  simp only [readOctet, hrun]
  split_ifs with hbad
  · refine Or.inr ⟨fun hw => ?_, rfl⟩
    have hvalue := digitsValue_ten hds ▸ hw.value
    have hpos := hw.pos
    have hshort := hw.short
    have hlead := hw.leading
    simp only [Bool.or_eq_true, Bool.and_eq_true, List.isEmpty_iff_length_eq_zero,
      decide_eq_true_eq, beq_iff_eq] at hbad
    rcases hbad with ((hbad | hbad) | ⟨htwo, hzero⟩) | hbad
    · omega
    · omega
    · exact hlead htwo hzero
    · omega
  · simp only [Bool.or_eq_true, Bool.and_eq_true, List.isEmpty_iff_length_eq_zero,
      decide_eq_true_eq, beq_iff_eq, not_or, not_and] at hbad
    obtain ⟨⟨⟨hpos, hshort⟩, hlead⟩, hvalue⟩ := hbad
    rw [digitsValue_ten hds] at hvalue
    exact Or.inl ⟨⟨hds, by omega, by omega, hlead, by omega⟩, _, rfl⟩

/-- **The reader of groups takes groups**, where no hexadecimal digit follows. -/
theorem readGroup_takes : Takes readGroup IsGroup (NotNext IsHex) := by
  refine takes_of_digitRun isSome_digit?_sixteen (fun w hw => hw.digits) ?_
  intro cs ds rest hrun hds
  simp only [readGroup, hrun]
  split_ifs with hbad
  · refine Or.inr ⟨fun hw => ?_, rfl⟩
    have hpos := hw.pos
    have hshort := hw.short
    simp only [Bool.or_eq_true, List.isEmpty_iff_length_eq_zero, decide_eq_true_eq] at hbad
    omega
  · simp only [Bool.or_eq_true, List.isEmpty_iff_length_eq_zero, decide_eq_true_eq] at hbad
    exact Or.inl ⟨⟨hds, by omega, by omega⟩, _, rfl⟩

/-! ### Dotted addresses -/

theorem readChar_eq_some_iff (expected : Char) (cs : List Char) (u : Unit) (rest : List Char) :
    readChar expected cs = some (u, rest) ↔ cs = expected :: rest := by
  rcases cs with _ | ⟨c, cs⟩
  · simp [readChar]
  · by_cases h : c = expected
    · simp [readChar, h]
    · simp [readChar, h]

/-- An octet in front of a dot. -/
theorem readOctet_dot (cs rest : List Char) :
    (∃ a, readOctet cs = some (a, '.' :: rest)) ↔ ∃ w, cs = w ++ '.' :: rest ∧ IsOctet w := by
  rw [readOctet_takes cs ('.' :: rest)]
  have hdot : NotNext IsDecimal ('.' :: rest) := by
    rintro c hc
    obtain rfl := Option.some.inj hc
    unfold IsDecimal
    decide
  exact exists_congr fun w => and_congr_right fun _ => and_iff_left hdot

/-- A dotted address is read number by number. -/
theorem readV4_eq_some_iff (cs rest : List Char) :
    (∃ v, readV4 cs = some (v, rest)) ↔
      ∃ cs₁, (∃ a, readOctet cs = some (a, '.' :: cs₁)) ∧
      ∃ cs₂, (∃ b, readOctet cs₁ = some (b, '.' :: cs₂)) ∧
      ∃ cs₃, (∃ c, readOctet cs₂ = some (c, '.' :: cs₃)) ∧
      ∃ d, readOctet cs₃ = some (d, rest) := by
  simp only [readV4, bind, Option.bind_eq_some_iff, Prod.exists, readChar_eq_some_iff]
  constructor
  · rintro ⟨_, _, _, _, a, _, ha, _, cs₁, rfl, b, _, hb, _, cs₂, rfl, c, _, hc, _, cs₃, rfl, d, _,
      hd, heq⟩
    obtain ⟨-, rfl⟩ := Prod.mk.inj (Option.some.inj heq)
    exact ⟨cs₁, ⟨a, ha⟩, cs₂, ⟨b, hb⟩, cs₃, ⟨c, hc⟩, d, hd⟩
  · rintro ⟨cs₁, ⟨a, ha⟩, cs₂, ⟨b, hb⟩, cs₃, ⟨c, hc⟩, d, hd⟩
    exact ⟨a, b, c, d, a, _, ha, (), cs₁, rfl, b, _, hb, (), cs₂, rfl, c, _, hc, (), cs₃, rfl, d, _,
      hd, rfl⟩

/-- **The reader of dotted addresses takes dotted addresses**, where no decimal digit follows. -/
theorem readV4_takes : Takes readV4 IsDotted (NotNext IsDecimal) := by
  intro cs rest
  simp only [readV4_eq_some_iff, readOctet_dot, readOctet_takes _ rest]
  constructor
  · rintro ⟨cs₁, ⟨a, rfl, ha⟩, cs₂, ⟨b, rfl, hb⟩, cs₃, ⟨c, rfl, hc⟩, d, rfl, hd, hnext⟩
    exact ⟨_, by simp, ⟨a, b, c, d, ha, hb, hc, hd, rfl⟩, hnext⟩
  · rintro ⟨w, rfl, ⟨a, b, c, d, ha, hb, hc, hd, rfl⟩, hnext⟩
    exact ⟨_, ⟨a, by simp, ha⟩, _, ⟨b, rfl, hb⟩, _, ⟨c, rfl, hc⟩, d, rfl, hd, hnext⟩

end SocketlessTls.Net
