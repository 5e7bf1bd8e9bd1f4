import Mathlib.Tactic.Convert
import Mathlib.Tactic.SplitIfs
import SocketlessTls.Text.Utf8

/-!
# What is UTF-8 and what is not

The strict reader looks at the bytes one after another and decides by ranges which of them may
follow which. What it has to accept is known without any of that: the bytes of texts. **The reader
finds a text exactly if the bytes are those of the text** (`SocketlessTls.Text.utf8?_eq_some_iff`).
So every text is read back, and nothing is spelled in two ways.

Between the two there are the spellings of single characters, `SocketlessTls.Text.Spells`, one rule
for each length. The reader takes the spellings by the ranges of their bytes, and characters are
written in spellings by the arithmetic of their numbers.

* `SocketlessTls.Text.Spells.encode`, `spells_utf8EncodeChar` – spellings and characters;
* `SocketlessTls.Text.spells_of_utf8Step`, `utf8Step_of_spells` – spellings and the reader;
* `SocketlessTls.Text.utf8?_eq_some_iff`, `utf8Lossy_ofString` – whole texts.
-/

namespace SocketlessTls.Text

open String (utf8EncodeChar)

/-! ### Spellings -/

/-- A byte that continues a character. -/
structure IsContinuation (b : UInt8) : Prop where
  lower : 0x80 ≤ b.toNat
  upper : b.toNat ≤ 0xBF

/-- **A byte that may be the second behind a given first one.** Behind four of the first bytes there
are fewer than behind the others: the rest would spell characters that are spelled shorter, or
surrogates, or numbers that are too large. -/
structure MayFollow (lead second : UInt8) : Prop extends IsContinuation second where
  three : lead.toNat = 0xE0 → 0xA0 ≤ second.toNat
  surrogate : lead.toNat = 0xED → second.toNat ≤ 0x9F
  four : lead.toNat = 0xF0 → 0x90 ≤ second.toNat
  last : lead.toNat = 0xF4 → second.toNat ≤ 0x8F

/-- **The spellings of the numbers of characters.** -/
inductive Spells : Bytes → ℕ → Prop
  | one {b : UInt8} (hb : b.toNat ≤ 0x7F) : Spells [b] b.toNat
  | two {b s : UInt8} (hb : 0xC2 ≤ b.toNat ∧ b.toNat ≤ 0xDF) (hs : MayFollow b s) :
    Spells [b, s] (b.toNat % 32 * 64 + continuationBits s)
  | three {b s t : UInt8} (hb : 0xE0 ≤ b.toNat ∧ b.toNat ≤ 0xEF) (hs : MayFollow b s)
    (ht : IsContinuation t) :
    Spells [b, s, t] ((b.toNat % 16 * 64 + continuationBits s) * 64 + continuationBits t)
  | four {b s t u : UInt8} (hb : 0xF0 ≤ b.toNat ∧ b.toNat ≤ 0xF4) (hs : MayFollow b s)
    (ht : IsContinuation t) (hu : IsContinuation u) :
    Spells [b, s, t, u] (((b.toNat % 8 * 64 + continuationBits s) * 64 + continuationBits t) * 64
      + continuationBits u)

theorem byteIn_iff {lo hi b : UInt8} :
    byteIn lo hi b = true ↔ lo.toNat ≤ b.toNat ∧ b.toNat ≤ hi.toNat := by
  simp [byteIn, UInt8.le_iff_toNat_le]

theorem isContinuation_iff {b : UInt8} : byteIn 0x80 0xBF b = true ↔ IsContinuation b := by
  rw [byteIn_iff]
  exact ⟨fun ⟨h, h'⟩ => ⟨h, h'⟩, fun ⟨h, h'⟩ => ⟨h, h'⟩⟩

theorem mayFollow_iff {b s : UInt8} : MayFollow b s ↔
    0x80 ≤ s.toNat ∧ s.toNat ≤ 0xBF ∧ (b.toNat = 0xE0 → 0xA0 ≤ s.toNat) ∧
      (b.toNat = 0xED → s.toNat ≤ 0x9F) ∧ (b.toNat = 0xF0 → 0x90 ≤ s.toNat) ∧
      (b.toNat = 0xF4 → s.toNat ≤ 0x8F) :=
  ⟨fun ⟨⟨h, h'⟩, h₃, hs, h₄, hl⟩ => ⟨h, h', h₃, hs, h₄, hl⟩,
    fun ⟨h, h', h₃, hs, h₄, hl⟩ => ⟨⟨h, h'⟩, h₃, hs, h₄, hl⟩⟩

/-- The payload of a byte that continues a character. -/
theorem IsContinuation.toNat_eq {b : UInt8} (h : IsContinuation b) :
    b.toNat = 128 + continuationBits b ∧ continuationBits b < 64 := by
  have hlower := h.lower
  have hupper := h.upper
  unfold continuationBits
  omega

/-! ### Spellings and characters -/

/-- What is spelled is a character, and neither a surrogate nor too large. -/
theorem Spells.isValidChar {bs : Bytes} {n : ℕ} (h : Spells bs n) : n.isValidChar := by
  unfold Nat.isValidChar
  cases h with
  | one hb => omega
  | two hb hs =>
    have hsecond := hs.toNat_eq
    omega
  | three hb hs ht =>
    have hfollow := mayFollow_iff.mp hs
    have hsecond := hs.toNat_eq
    have hthird := ht.toNat_eq
    omega
  | four hb hs ht hu =>
    have hfollow := mayFollow_iff.mp hs
    have hsecond := hs.toNat_eq
    have hthird := ht.toNat_eq
    have hfourth := hu.toNat_eq
    omega

theorem toNat_ofNat {n : ℕ} (h : n.isValidChar) : (Char.ofNat n).toNat = n := by
  rw [Char.ofNat, dif_pos h]
  rfl

theorem utf8EncodeChar_eq (c : Char) : utf8EncodeChar c =
    if c.toNat ≤ 0x7F then [.ofNat c.toNat]
    else if c.toNat ≤ 0x7FF then [.ofNat (c.toNat / 64 % 32 + 192), .ofNat (c.toNat % 64 + 128)]
    else if c.toNat ≤ 0xFFFF then
      [.ofNat (c.toNat / 4096 % 16 + 224), .ofNat (c.toNat / 64 % 64 + 128),
        .ofNat (c.toNat % 64 + 128)]
    else
      [.ofNat (c.toNat / 262144 % 8 + 240), .ofNat (c.toNat / 4096 % 64 + 128),
        .ofNat (c.toNat / 64 % 64 + 128), .ofNat (c.toNat % 64 + 128)] := rfl

theorem ofNat_eq {n : ℕ} {b : UInt8} (h : n = b.toNat) : UInt8.ofNat n = b := by
  rw [h, UInt8.ofNat_toNat]

/-- **A spelling is how the character is written.** -/
theorem Spells.encode {bs : Bytes} {n : ℕ} (h : Spells bs n) :
    utf8EncodeChar (Char.ofNat n) = bs := by
  rw [utf8EncodeChar_eq, toNat_ofNat h.isValidChar]
  cases h with
  | one hb => rw [if_pos hb, ofNat_eq rfl]
  | two hb hs =>
    have hsecond := hs.toNat_eq
    rw [if_neg (by omega), if_pos (by omega)]
    simp only [List.cons.injEq, and_true]
    exact ⟨ofNat_eq (by omega), ofNat_eq (by omega)⟩
  | three hb hs ht =>
    have hfollow := mayFollow_iff.mp hs
    have hsecond := hs.toNat_eq
    have hthird := ht.toNat_eq
    rw [if_neg (by omega), if_neg (by omega), if_pos (by omega)]
    simp only [List.cons.injEq, and_true]
    exact ⟨ofNat_eq (by omega), ofNat_eq (by omega), ofNat_eq (by omega)⟩
  | four hb hs ht hu =>
    have hfollow := mayFollow_iff.mp hs
    have hsecond := hs.toNat_eq
    have hthird := ht.toNat_eq
    have hfourth := hu.toNat_eq
    rw [if_neg (by omega), if_neg (by omega), if_neg (by omega)]
    simp only [List.cons.injEq, and_true]
    exact ⟨ofNat_eq (by omega), ofNat_eq (by omega), ofNat_eq (by omega), ofNat_eq (by omega)⟩

theorem toNat_payload (n : ℕ) : (UInt8.ofNat (n % 64 + 128)).toNat = n % 64 + 128 :=
  UInt8.toNat_ofNat_of_lt' (by simp [UInt8.size]; omega)

theorem isContinuation_payload (n : ℕ) : IsContinuation (.ofNat (n % 64 + 128)) := by
  refine ⟨?_, ?_⟩ <;> rw [toNat_payload] <;> omega

theorem continuationBits_payload (n : ℕ) : continuationBits (.ofNat (n % 64 + 128)) = n % 64 := by
  rw [continuationBits, toNat_payload]
  omega

/-- **A character is written in a spelling.** -/
theorem spells_utf8EncodeChar (c : Char) : Spells (utf8EncodeChar c) c.toNat := by
  rw [utf8EncodeChar_eq]
  have hvalid : c.toNat.isValidChar := c.valid
  unfold Nat.isValidChar at hvalid
  generalize c.toNat = n at *
  -- of the first byte the number is known, and of the others the payloads
  split_ifs with hone htwo hthree
  · have hb : (UInt8.ofNat n).toNat = n := UInt8.toNat_ofNat_of_lt' (by simp [UInt8.size]; omega)
    have h := Spells.one (b := .ofNat n) (by omega)
    rwa [hb] at h
  · have hb : (UInt8.ofNat (n / 64 % 32 + 192)).toNat = n / 64 % 32 + 192 :=
      UInt8.toNat_ofNat_of_lt' (by simp [UInt8.size]; omega)
    have hs := toNat_payload n
    have h := Spells.two (b := .ofNat (n / 64 % 32 + 192)) (s := .ofNat (n % 64 + 128)) (by omega)
      (mayFollow_iff.mpr (by omega))
    rw [continuationBits_payload, hb] at h
    convert h using 1
    omega
  · have hb : (UInt8.ofNat (n / 4096 % 16 + 224)).toNat = n / 4096 % 16 + 224 :=
      UInt8.toNat_ofNat_of_lt' (by simp [UInt8.size]; omega)
    have hs := toNat_payload (n / 64)
    have h := Spells.three (b := .ofNat (n / 4096 % 16 + 224)) (s := .ofNat (n / 64 % 64 + 128))
      (by omega) (mayFollow_iff.mpr (by omega)) (isContinuation_payload n)
    rw [continuationBits_payload, continuationBits_payload, hb] at h
    convert h using 1
    omega
  · have hb : (UInt8.ofNat (n / 262144 % 8 + 240)).toNat = n / 262144 % 8 + 240 :=
      UInt8.toNat_ofNat_of_lt' (by simp [UInt8.size]; omega)
    have hs := toNat_payload (n / 4096)
    have h := Spells.four (b := .ofNat (n / 262144 % 8 + 240)) (s := .ofNat (n / 4096 % 64 + 128))
      (by omega) (mayFollow_iff.mpr (by omega)) (isContinuation_payload (n / 64))
      (isContinuation_payload n)
    rw [continuationBits_payload, continuationBits_payload, continuationBits_payload, hb] at h
    convert h using 1
    omega

/-! ### Spellings and the reader -/

theorem utf8Lead?_eq (b : UInt8) : utf8Lead? b =
    if 0xC2 ≤ b.toNat ∧ b.toNat ≤ 0xDF then some (0x80, 0xBF, 2)
    else if b.toNat = 0xE0 then some (0xA0, 0xBF, 3)
    else if b.toNat = 0xED then some (0x80, 0x9F, 3)
    else if 0xE1 ≤ b.toNat ∧ b.toNat ≤ 0xEF then some (0x80, 0xBF, 3)
    else if b.toNat = 0xF0 then some (0x90, 0xBF, 4)
    else if 0xF1 ≤ b.toNat ∧ b.toNat ≤ 0xF3 then some (0x80, 0xBF, 4)
    else if b.toNat = 0xF4 then some (0x80, 0x8F, 4)
    else none := by
  simp only [utf8Lead?, byteIn_iff, beq_iff_eq, ← UInt8.toNat_inj, UInt8.reduceToNat]

/-- **The first byte of a longer spelling** tells its length and what may follow. -/
theorem utf8Lead?_cases (b : UInt8) :
    (∃ lo hi width, utf8Lead? b = some (lo, hi, width) ∧
      (∀ s, byteIn lo hi s = true ↔ MayFollow b s) ∧
      ((width = 2 ∧ 0xC2 ≤ b.toNat ∧ b.toNat ≤ 0xDF) ∨
        (width = 3 ∧ 0xE0 ≤ b.toNat ∧ b.toNat ≤ 0xEF) ∨
        (width = 4 ∧ 0xF0 ≤ b.toNat ∧ b.toNat ≤ 0xF4))) ∨
    (utf8Lead? b = none ∧ ¬(0xC2 ≤ b.toNat ∧ b.toNat ≤ 0xF4)) := by
  simp only [byteIn_iff, mayFollow_iff]
  rw [utf8Lead?_eq]
  split_ifs
  case neg => exact Or.inr ⟨rfl, by omega⟩
  all_goals
    refine Or.inl ⟨_, _, _, rfl, fun s => ?_, by omega⟩
    simp only [UInt8.reduceToNat]
    omega

/-- **What the reader takes for a character is a spelling of it** at the front of the bytes. -/
theorem spells_of_utf8Step {b : UInt8} {rest : Bytes} {c : Char} {w : ℕ}
    (h : utf8Step b rest = .scalar c w) :
    ∃ bs tail n, rest = bs ++ tail ∧ w = bs.length + 1 ∧ Spells (b :: bs) n ∧ Char.ofNat n = c := by
  rw [utf8Step] at h
  split at h
  next hb =>
    obtain ⟨rfl, rfl⟩ := Utf8Step.scalar.inj h
    exact ⟨[], rest, _, rfl, rfl, .one (Nat.le_of_lt_succ (UInt8.lt_iff_toNat_lt.mp hb)), rfl⟩
  rcases utf8Lead?_cases b with ⟨lo, hi, width, hlead, hfollow, hwidth⟩ | ⟨hlead, -⟩
  · simp only [hlead] at h
    rcases rest with _ | ⟨s, rest⟩
    · cases h
    by_cases hs : byteIn lo hi s = true
    · simp only [hs, Bool.not_true, Bool.false_eq_true, if_false] at h
      rw [hfollow] at hs
      rcases hwidth with ⟨rfl, hb⟩ | ⟨rfl, hb⟩ | ⟨rfl, hb⟩
      · obtain ⟨rfl, rfl⟩ := Utf8Step.scalar.inj h
        exact ⟨[s], rest, _, rfl, rfl, .two hb hs, rfl⟩
      · rcases rest with _ | ⟨t, rest⟩
        · cases h
        by_cases ht : byteIn 0x80 0xBF t = true <;> simp [ht] at h
        obtain ⟨rfl, rfl⟩ := h
        exact ⟨[s, t], rest, _, rfl, rfl, .three hb hs (isContinuation_iff.mp ht), rfl⟩
      · rcases rest with _ | ⟨t, rest⟩
        · cases h
        by_cases ht : byteIn 0x80 0xBF t = true <;> simp [ht] at h
        rcases rest with _ | ⟨u, rest⟩
        · cases h
        by_cases hu : byteIn 0x80 0xBF u = true <;> simp [hu] at h
        obtain ⟨rfl, rfl⟩ := h
        exact ⟨[s, t, u], rest, _, rfl, rfl,
          .four hb hs (isContinuation_iff.mp ht) (isContinuation_iff.mp hu), rfl⟩
    · simp only [hs, Bool.not_false, if_true] at h
      cases h
  · rw [hlead] at h
    cases h

/-- **A spelling at the front of the bytes is taken for its character.** -/
theorem utf8Step_of_spells {b : UInt8} {bs : Bytes} {n : ℕ} (h : Spells (b :: bs) n)
    (tail : Bytes) : utf8Step b (bs ++ tail) = .scalar (Char.ofNat n) (bs.length + 1) := by
  have hlong : 0x80 ≤ b.toNat → ¬b < 0x80 := fun hle hlt =>
    Nat.not_lt_of_le hle (UInt8.lt_iff_toNat_lt.mp hlt)
  rw [utf8Step]
  cases h with
  | one hb => exact if_pos (UInt8.lt_iff_toNat_lt.mpr (Nat.lt_succ_of_le hb))
  | two hb hs =>
    rw [if_neg (hlong (by omega))]
    rcases utf8Lead?_cases b with ⟨lo, hi, width, hlead, hfollow, hwidth⟩ | ⟨-, hno⟩
    · obtain rfl : width = 2 := by omega
      simp [hlead, (hfollow _).mpr hs]
    · omega
  | three hb hs ht =>
    rw [if_neg (hlong (by omega))]
    rcases utf8Lead?_cases b with ⟨lo, hi, width, hlead, hfollow, hwidth⟩ | ⟨-, hno⟩
    · obtain rfl : width = 3 := by omega
      simp [hlead, (hfollow _).mpr hs, isContinuation_iff.mpr ht]
    · omega
  | four hb hs ht hu =>
    rw [if_neg (hlong (by omega))]
    rcases utf8Lead?_cases b with ⟨lo, hi, width, hlead, hfollow, hwidth⟩ | ⟨-, hno⟩
    · obtain rfl : width = 4 := by omega
      simp [hlead, (hfollow _).mpr hs, isContinuation_iff.mpr ht, isContinuation_iff.mpr hu]
    · omega

/-! ### Texts -/

/-- The bytes of a text are those of its characters. -/
theorem ofString_ofList (cs : List Char) :
    Bytes.ofString (String.ofList cs) = cs.flatMap utf8EncodeChar := by
  rw [Bytes.ofString_eq, String.toByteArray_ofList, List.utf8Encode, List.data_toByteArray]

/-- **One step reads one character**, whatever comes behind it. -/
theorem utf8Step_encode (c : Char) (tail : Bytes) :
    ∃ b bs, utf8EncodeChar c = b :: bs ∧ utf8Step b (bs ++ tail) = .scalar c (bs.length + 1) := by
  have hspells := spells_utf8EncodeChar c
  rcases henc : utf8EncodeChar c with _ | ⟨b, bs⟩ <;> rw [henc] at hspells
  · cases hspells
  · have hstep := utf8Step_of_spells hspells tail
    rw [Char.ofNat_toNat] at hstep
    exact ⟨b, bs, rfl, hstep⟩

/-- **A text is read character by character.** -/
theorem utf8Steps_flatMap (cs : List Char) :
    utf8Steps (cs.flatMap utf8EncodeChar) =
      cs.map fun c => .scalar c (utf8EncodeChar c).length := by
  induction cs with
  | nil => rw [List.flatMap_nil, utf8Steps, List.map_nil]
  | cons c cs ih =>
    obtain ⟨b, bs, henc, hstep⟩ := utf8Step_encode c (cs.flatMap utf8EncodeChar)
    rw [List.flatMap_cons, henc, List.cons_append, utf8Steps, hstep, List.map_cons, henc]
    simp only [Utf8Step.width, Nat.add_sub_cancel, List.drop_left, ih, List.length_cons]

/-- A text goes on behind its first character. -/
theorem utf8?_cons_scalar {b : UInt8} {rest : Bytes} {c : Char} {w : ℕ}
    (h : utf8Step b rest = .scalar c w) :
    utf8? (b :: rest) = (utf8? (rest.drop (w - 1))).map fun s => String.ofList (c :: s.toList) := by
  rw [utf8?, utf8Steps, h, List.foldr_cons, utf8?, Option.map_map, Utf8Step.width]
  cases List.foldr _ _ _ with
  | none => rfl
  | some cs => simp

/-- Where no character is found there is no text. -/
theorem utf8?_cons_illFormed {b : UInt8} {rest : Bytes} {w : ℕ}
    (h : utf8Step b rest = .illFormed w) : utf8? (b :: rest) = none := by
  rw [utf8?, utf8Steps, h, List.foldr_cons]
  rfl

/-- **What is read has the bytes that it is read from**, by induction on their number: what is left
behind a character is shorter. -/
theorem ofString_of_utf8? {bs : Bytes} {s : String} (h : utf8? bs = some s) :
    Bytes.ofString s = bs := by
  induction hlen : bs.length using Nat.strongRecOn generalizing bs s with
  | ind len ih =>
    rcases bs with _ | ⟨b, rest⟩
    · rw [utf8?, utf8Steps] at h
      obtain rfl := Option.some.inj h
      exact ofString_ofList []
    rcases hstep : utf8Step b rest with ⟨c, w⟩ | w
    · rw [utf8?_cons_scalar hstep] at h
      obtain ⟨t, htail, rfl⟩ := Option.map_eq_some_iff.mp h
      obtain ⟨bs, tail, n, rfl, rfl, hs, rfl⟩ := spells_of_utf8Step hstep
      rw [Nat.add_sub_cancel, List.drop_left] at htail
      have hshorter : tail.length < len := by
        simp only [List.length_cons, List.length_append] at hlen
        omega
      rw [ofString_ofList, List.flatMap_cons, hs.encode, ← ofString_ofList, String.ofList_toList,
        ih tail.length hshorter htail rfl, List.cons_append]
    · rw [utf8?_cons_illFormed hstep] at h
      cases h

/-- **Every text is read back from its bytes.** -/
theorem utf8?_ofString (s : String) : utf8? (Bytes.ofString s) = some s := by
  rw [← String.ofList_toList (s := s), ofString_ofList]
  induction s.toList with
  | nil =>
    rw [List.flatMap_nil, utf8?, utf8Steps]
    rfl
  | cons c cs ih =>
    obtain ⟨b, bs, henc, hstep⟩ := utf8Step_encode c (cs.flatMap utf8EncodeChar)
    rw [List.flatMap_cons, henc, List.cons_append, utf8?_cons_scalar hstep, Nat.add_sub_cancel,
      List.drop_left, ih]
    simp

/-- **The strict reader finds a text exactly in the bytes of the text.** -/
theorem utf8?_eq_some_iff (bs : Bytes) (s : String) :
    utf8? bs = some s ↔ Bytes.ofString s = bs :=
  ⟨ofString_of_utf8?, fun h => h ▸ utf8?_ofString s⟩

/-- **The lenient reader finds the same text there.** -/
theorem utf8Lossy_ofString (s : String) : utf8Lossy (Bytes.ofString s) = s := by
  have hbytes := ofString_ofList s.toList
  rw [String.ofList_toList] at hbytes
  rw [utf8Lossy, hbytes, utf8Steps_flatMap, List.map_map]
  change String.ofList (s.toList.map id) = s
  rw [List.map_id, String.ofList_toList]

end SocketlessTls.Text
