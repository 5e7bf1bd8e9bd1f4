import SocketlessTls.Proofs.Net.Words

/-!
# The texts that are internet addresses

A server is asked for by its name, and an address is not a name. So it has to be known exactly
which texts are addresses. `SocketlessTls.Net.IsLiteral` says so by a grammar: four numbers with
dots, eight groups with colons, or two rows of groups with `::` between them, which stands for one
group at least; and in place of the last two groups there may be four numbers with dots, if they end
the text.

The reader of addresses finds its way by trial. It reads as many groups as there are, and before
each of them it looks for four numbers with dots, which look like a group at first. **It accepts a
text exactly if the text is in the grammar** (`SocketlessTls.Net.parse?_isSome_iff`), which means
that it never takes a wrong way that it does not come back from.

* `SocketlessTls.Net.IsRow`, `IsLastRow`, `IsV6`, `IsLiteral` – the grammar;
* `SocketlessTls.Net.Row` – rows as the reader goes along them, word by word;
* `SocketlessTls.Net.readGroups_sound`, `readGroups_complete` – the reader of rows;
* `SocketlessTls.Net.parse?_isSome_iff` – the reader of addresses.
-/

namespace SocketlessTls.Net

/-! ### The grammar -/

/-- **So many groups** with colons between them. -/
def IsRow (n : ℕ) (cs : List Char) : Prop :=
  ∃ ws : List (List Char), ws.length = n ∧ (∀ w ∈ ws, IsGroup w) ∧ cs = [':'].intercalate ws

/-- **So many groups at the end of a text**, where four numbers with dots may take the place of the
last two. -/
def IsLastRow (n : ℕ) (cs : List Char) : Prop :=
  IsRow n cs ∨ ∃ (ws : List (List Char)) (d : List Char), ws.length + 2 = n ∧
    (∀ w ∈ ws, IsGroup w) ∧ IsDotted d ∧ cs = [':'].intercalate (ws ++ [d])

/-- **An IPv6 address**: eight groups, or up to seven and a gap among them. -/
inductive IsV6 : List Char → Prop
  | full {cs : List Char} (h : IsLastRow 8 cs) : IsV6 cs
  | short {m n : ℕ} {head tail : List Char} (hm : m + n ≤ 7) (hhead : IsRow m head)
      (htail : IsLastRow n tail) : IsV6 (head ++ [':', ':'] ++ tail)

/-- **The texts that are internet addresses.** -/
def IsLiteral (cs : List Char) : Prop := IsDotted cs ∨ IsV6 cs

/-! ### Rows, word by word -/

/-- The colon in front of a word, unless it is the first of its row. -/
def colon (first : Bool) : List Char := if first then [] else [':']

/-- Words with a colon in front of each, or of each but the first. -/
def colons : Bool → List (List Char) → List Char
  | _, [] => []
  | first, w :: ws => colon first ++ (w ++ colons false ws)

/-- **A row**, or the rest of one: of so many groups, with or without a dotted address at its
end. -/
inductive Row : (first : Bool) → ℕ → (dotted : Bool) → List Char → Prop
  | nil {first : Bool} : Row first 0 false []
  | dotted {first : Bool} {d : List Char} (h : IsDotted d) : Row first 2 true (colon first ++ d)
  | cons {first : Bool} {n : ℕ} {dotted : Bool} {g cs : List Char} (h : IsGroup g)
      (hrow : Row false n dotted cs) : Row first (n + 1) dotted (colon first ++ (g ++ cs))

/-- Colons in front of all words but the first are colons between the words. -/
theorem colons_true (ws : List (List Char)) : colons true ws = [':'].intercalate ws := by
  have hrest : ∀ ws w, w ++ colons false ws = [':'].intercalate (w :: ws) := by
    intro ws
    induction ws with
    | nil => exact fun w => by simp [colons, List.intercalate]
    | cons w' ws ih =>
      intro w
      rw [List.intercalate_cons_cons, ← ih w']
      simp [colons, colon]
  cases ws with
  | nil => rfl
  | cons w ws => exact hrest ws w

/-- A row without a dotted address is so many groups. -/
theorem row_plain_iff {first : Bool} {n : ℕ} {cs : List Char} :
    Row first n false cs ↔ ∃ ws : List (List Char), ws.length = n ∧ (∀ w ∈ ws, IsGroup w) ∧
      cs = colons first ws := by
  constructor
  · intro h
    generalize hd : false = dotted at h
    induction h with
    | nil => exact ⟨[], rfl, nofun, rfl⟩
    | dotted h => cases hd
    | cons hg hrow ih =>
      obtain ⟨ws, rfl, hws, rfl⟩ := ih hd
      exact ⟨_ :: ws, rfl, List.forall_mem_cons.mpr ⟨hg, hws⟩, rfl⟩
  · rintro ⟨ws, rfl, hws, rfl⟩
    induction ws generalizing first with
    | nil => exact .nil
    | cons w ws ih =>
      obtain ⟨hw, hws⟩ := List.forall_mem_cons.mp hws
      exact .cons hw (ih hws)

/-- A row with a dotted address is two groups longer than the groups before that. -/
theorem row_dotted_iff {first : Bool} {n : ℕ} {cs : List Char} :
    Row first n true cs ↔ ∃ (ws : List (List Char)) (d : List Char), ws.length + 2 = n ∧
      (∀ w ∈ ws, IsGroup w) ∧ IsDotted d ∧ cs = colons first (ws ++ [d]) := by
  constructor
  · intro h
    generalize hd : true = dotted at h
    induction h with
    | nil => cases hd
    | @dotted first d h => exact ⟨[], d, rfl, nofun, h, by simp [colons]⟩
    | cons hg hrow ih =>
      obtain ⟨ws, d, rfl, hws, hdot, rfl⟩ := ih hd
      exact ⟨_ :: ws, d, rfl, List.forall_mem_cons.mpr ⟨hg, hws⟩, hdot, rfl⟩
  · rintro ⟨ws, d, rfl, hws, hdot, rfl⟩
    induction ws generalizing first with
    | nil =>
      have hrow : Row first 2 true (colon first ++ d) := .dotted hdot
      simpa [colons] using hrow
    | cons w ws ih =>
      obtain ⟨hw, hws⟩ := List.forall_mem_cons.mp hws
      exact .cons hw (ih hws)

theorem isRow_iff {n : ℕ} {cs : List Char} : IsRow n cs ↔ Row true n false cs := by
  simp only [row_plain_iff, colons_true]
  rfl

theorem isLastRow_iff {n : ℕ} {cs : List Char} :
    IsLastRow n cs ↔ ∃ dotted, Row true n dotted cs := by
  rw [Bool.exists_bool, ← isRow_iff]
  simp only [row_dotted_iff, colons_true]
  rfl

/-! ### Where words end -/

/-- Nothing but a colon is next. -/
def AtColon (rest : List Char) : Prop := ∀ c, rest.head? = some c → c = ':'

/-- A row is over: at the end of the text, or in front of two colons. -/
def AtEnd (rest : List Char) : Prop := rest = [] ∨ ∃ cs, rest = ':' :: ':' :: cs

theorem not_isHex_colon : ¬IsHex ':' := by
  unfold IsHex IsDecimal
  decide

theorem not_isHex_dot : ¬IsHex '.' := by
  unfold IsHex IsDecimal
  decide

theorem AtColon.notNext {P : Char → Prop} {rest : List Char} (h : AtColon rest)
    (hP : ∀ c, P c → IsHex c) : NotNext P rest := by
  intro c hc hPc
  obtain rfl := h c hc
  exact not_isHex_colon (hP _ hPc)

theorem AtEnd.atColon {rest : List Char} (h : AtEnd rest) : AtColon rest := by
  intro c hc
  rcases h with rfl | ⟨cs, rfl⟩
  · cases hc
  · exact (Option.some.inj hc).symm

/-- Behind a word of a row there is a colon, or what comes after the row. -/
theorem Row.atColon {n : ℕ} {dotted : Bool} {row rest : List Char} (h : Row false n dotted row)
    (hrest : AtColon rest) : AtColon (row ++ rest) := by
  cases h with
  | nil => exact hrest
  | dotted h => exact fun c hc => (Option.some.inj hc).symm
  | cons h hrow => exact fun c hc => (Option.some.inj hc).symm

/-- A group starts with a digit. -/
theorem IsGroup.starts {w : List Char} (h : IsGroup w) : ∃ c cs, w = c :: cs ∧ IsHex c := by
  obtain ⟨c, cs, rfl⟩ := List.exists_cons_of_length_pos h.pos
  exact ⟨c, cs, rfl, h.digits c List.mem_cons_self⟩

/-- A dotted address is an octet and a dot, and so on. -/
theorem IsDotted.split {w : List Char} (h : IsDotted w) :
    ∃ a cs, w = a ++ '.' :: cs ∧ IsOctet a := by
  obtain ⟨a, b, c, d, ha, -, -, -, rfl⟩ := h
  exact ⟨a, _, rfl, ha⟩

/-- A dotted address starts with a digit. -/
theorem IsDotted.starts {w : List Char} (h : IsDotted w) : ∃ c cs, w = c :: cs ∧ IsHex c := by
  obtain ⟨a, rest, rfl, ha⟩ := h.split
  obtain ⟨c, cs, rfl⟩ := List.exists_cons_of_length_pos ha.pos
  exact ⟨c, _, rfl, Or.inl (ha.digits c List.mem_cons_self)⟩

/-- **A group is not the start of a dotted address**: it would have to be followed by a dot. -/
theorem readV4_group {g rest : List Char} (hg : IsGroup g) (hrest : AtColon rest) :
    readV4 (g ++ rest) = none := by
  refine readV4_takes.eq_none fun w rest' hcs hw _ => ?_
  obtain ⟨a, cs, rfl, ha⟩ := hw.split
  rw [List.append_assoc] at hcs
  -- the digits go on up to what follows the group, and up to the dot
  have hgroup := (digitRun_eq_iff isSome_digit?_sixteen (g ++ rest) g rest).mpr
    ⟨rfl, hg.digits, hrest.notNext fun _ => id⟩
  have hoctet := (digitRun_eq_iff isSome_digit?_sixteen (g ++ rest) a ('.' :: cs ++ rest')).mpr
    ⟨hcs, fun c hc => Or.inl (ha.digits c hc), by
      rintro c hc
      obtain rfl := Option.some.inj hc
      exact not_isHex_dot⟩
  obtain ⟨-, rfl⟩ := Prod.mk.inj (hgroup.symm.trans hoctet)
  exact absurd (hrest '.' rfl) (by decide)

/-! ### The reader of rows -/

/-- **A reader that wants a colon in front takes the same words** with a colon in front. -/
theorem Takes.afterColon {α : Type} {read : Reader α} {Word Follow : List Char → Prop}
    (h : Takes read Word Follow) (first : Bool) :
    Takes (afterColon first read) (fun w => ∃ v, w = colon first ++ v ∧ Word v) Follow := by
  intro cs rest
  cases first with
  | true =>
    refine (h cs rest).trans (exists_congr fun w => and_congr_right fun _ => and_congr_left' ?_)
    exact ⟨fun hw => ⟨w, rfl, hw⟩, fun ⟨v, hv, hw⟩ => hv ▸ hw⟩
  | false =>
    simp only [Net.afterColon, Bool.false_eq_true, if_false, bind, Option.bind_eq_some_iff,
      Prod.exists, readChar_eq_some_iff]
    constructor
    · rintro ⟨a, _, cs', rfl, hr⟩
      obtain ⟨w, rfl, hw, hf⟩ := (h cs' rest).mp ⟨a, hr⟩
      exact ⟨':' :: w, rfl, ⟨w, rfl, hw⟩, hf⟩
    · rintro ⟨_, rfl, ⟨w, rfl, hw⟩, hf⟩
      obtain ⟨a, hr⟩ := (h (w ++ rest) rest).mpr ⟨w, rfl, hw, hf⟩
      exact ⟨a, (), w ++ rest, rfl, hr⟩

/-- A reader that fails does so behind a colon as well. -/
theorem afterColon_eq_none {α : Type} {read : Reader α} {cs : List Char} (h : read cs = none)
    (first : Bool) : afterColon first read (colon first ++ cs) = none := by
  cases first with
  | true => exact h
  | false => simpa [afterColon, colon, readChar, bind, Option.bind] using h

/-- Where a row is over, no word is found. -/
theorem AtEnd.eq_none {α : Type} {read : Reader α} {Word Follow : List Char → Prop}
    (h : Takes read Word Follow) (hstarts : ∀ w, Word w → ∃ c cs, w = c :: cs ∧ IsHex c)
    {rest : List Char} (hend : AtEnd rest) (first : Bool) : afterColon first read rest = none := by
  refine (h.afterColon first).eq_none fun w rest' hcs hw _ => ?_
  obtain ⟨v, rfl, hv⟩ := hw
  obtain ⟨c, cs, rfl, hc⟩ := hstarts v hv
  -- the word would start with a colon
  refine not_isHex_colon ?_
  rcases hend with rfl | ⟨cs', rfl⟩
  · cases first <;> cases hcs
  · cases first with
    | true =>
      obtain ⟨rfl, -⟩ := List.cons.inj hcs
      exact hc
    | false =>
      obtain ⟨rfl, -⟩ := List.cons.inj (List.cons.inj hcs).2
      exact hc

section Words

variable {limit : ℕ} {first : Bool} {cs rest : List Char}

/-- A dotted address is taken for two groups, if there is room for them, and ends the row. -/
theorem readGroups_dotted (hlimit : limit ≠ 0) {v : UInt8 × UInt8 × UInt8 × UInt8}
    (hv : afterColon first readV4 cs = some (v, rest)) :
    ∃ gs, gs.length = 2 ∧ readGroups (limit + 1) first cs = (gs, true, rest) := by
  obtain ⟨a, b, c, d⟩ := v
  exact ⟨groupsOfV4 a b c d, rfl, by simp only [readGroups, if_neg hlimit, hv]⟩

/-- Where there is neither a dotted address nor a group, the row is over. -/
theorem readGroups_stop (hv : (if limit = 0 then none else afterColon first readV4 cs) = none)
    (hg : afterColon first readGroup cs = none) :
    readGroups (limit + 1) first cs = ([], false, cs) := by
  simp only [readGroups, hv, hg]

/-- A group is taken, and the row goes on. -/
theorem readGroups_group (hv : (if limit = 0 then none else afterColon first readV4 cs) = none)
    {g : UInt16} (hg : afterColon first readGroup cs = some (g, rest)) {gs : List UInt16}
    {dotted : Bool} {rest' : List Char}
    (hrest : readGroups limit false rest = (gs, dotted, rest')) :
    readGroups (limit + 1) first cs = (g :: gs, dotted, rest') := by
  simp only [readGroups, hv, hg, hrest]

end Words

/-- **The reader of rows takes a row** from the front of a text, within the limit. -/
theorem readGroups_sound (limit : ℕ) (first : Bool) (cs : List Char) :
    ∃ gs dotted row rest, readGroups limit first cs = (gs, dotted, rest) ∧ cs = row ++ rest ∧
      Row first gs.length dotted row ∧ gs.length ≤ limit := by
  induction limit generalizing first cs with
  | zero => exact ⟨[], false, [], cs, rfl, rfl, .nil, Nat.le_refl 0⟩
  | succ limit ih =>
    rcases hv : (if limit = 0 then none else afterColon first readV4 cs) with _ | ⟨v, rest⟩
    · rcases hg : afterColon first readGroup cs with _ | ⟨g, rest⟩
      · exact ⟨[], false, [], cs, readGroups_stop hv hg, rfl, .nil, Nat.zero_le _⟩
      · obtain ⟨_, rfl, ⟨w, rfl, hw⟩, -⟩ :=
          ((readGroup_takes.afterColon first) cs rest).mp ⟨g, hg⟩
        obtain ⟨gs, dotted, row, rest, hread, rfl, hrow, hle⟩ := ih false rest
        refine ⟨g :: gs, dotted, colon first ++ (w ++ row), rest, readGroups_group hv hg hread, ?_,
          .cons hw hrow, Nat.succ_le_succ hle⟩
        simp only [List.append_assoc]
    · have hlimit : limit ≠ 0 := by
        intro hzero
        rw [if_pos hzero] at hv
        cases hv
      rw [if_neg hlimit] at hv
      obtain ⟨_, rfl, ⟨d, rfl, hd⟩, -⟩ := ((readV4_takes.afterColon first) cs rest).mp ⟨v, hv⟩
      obtain ⟨gs, hlen, hread⟩ := readGroups_dotted hlimit hv
      refine ⟨gs, true, colon first ++ d, rest, hread, rfl, ?_, by omega⟩
      rw [hlen]
      exact .dotted hd

/-- **The reader of rows takes all of a row**, if there is room for it and the row is over there, by
induction on the row. -/
theorem readGroups_complete {limit n : ℕ} {first dotted : Bool} {row rest : List Char}
    (h : Row first n dotted row) (hn : n ≤ limit) (hend : AtEnd rest) :
    ∃ gs, gs.length = n ∧ readGroups limit first (row ++ rest) = (gs, dotted, rest) := by
  induction h generalizing limit with
  | @nil first =>
    refine ⟨[], rfl, ?_⟩
    cases limit with
    | zero => rfl
    | succ limit =>
      have hv := hend.eq_none readV4_takes (fun w hw => hw.starts) first
      have hg := hend.eq_none readGroup_takes (fun w hw => hw.starts) first
      exact readGroups_stop (by rw [List.nil_append, hv, ite_self]) hg
  | @dotted first d hd =>
    obtain ⟨limit, rfl⟩ := Nat.exists_eq_add_of_le' (Nat.le_of_succ_le hn)
    have hlimit : limit ≠ 0 := by omega
    obtain ⟨v, hv⟩ := ((readV4_takes.afterColon first) (colon first ++ d ++ rest) rest).mpr
      ⟨_, rfl, ⟨d, rfl, hd⟩, hend.atColon.notNext fun _ => Or.inl⟩
    exact readGroups_dotted hlimit hv
  | @cons first n dotted g cs hg hrow ih =>
    obtain ⟨limit, rfl⟩ := Nat.exists_eq_add_of_le' (Nat.le_trans (Nat.succ_pos n) hn)
    have hnext : AtColon (cs ++ rest) := hrow.atColon hend.atColon
    have htext : colon first ++ (g ++ cs) ++ rest = colon first ++ g ++ (cs ++ rest) := by
      simp only [List.append_assoc]
    -- the word is a group, and is not taken for the start of a dotted address
    have hv := afterColon_eq_none (readV4_group hg hnext) first
    obtain ⟨v, hv'⟩ := ((readGroup_takes.afterColon first) (colon first ++ g ++ (cs ++ rest))
      (cs ++ rest)).mpr ⟨_, rfl, ⟨g, rfl, hg⟩, hnext.notNext fun _ => id⟩
    obtain ⟨gs, hlen, hread⟩ := ih (Nat.le_of_succ_le_succ hn)
    refine ⟨v :: gs, congrArg Nat.succ hlen, ?_⟩
    rw [htext]
    refine readGroups_group ?_ hv' hread
    rw [List.append_assoc, hv, ite_self]

/-! ### The reader of addresses -/

/-- **The reader of IPv6 addresses accepts IPv6 addresses only.** -/
theorem isV6_of_readV6 {cs : List Char} {gs : List UInt16} (h : readV6 cs = some (gs, [])) :
    IsV6 cs := by
  obtain ⟨head, dotted, row, rest, hread, rfl, hrow, hle⟩ := readGroups_sound 8 true cs
  simp only [readV6, hread] at h
  by_cases hlen : head.length = 8
  -- a row of eight leaves nothing to be read
  · rw [if_pos hlen] at h
    obtain ⟨-, rfl⟩ := Prod.mk.inj (Option.some.inj h)
    rw [List.append_nil]
    exact .full (isLastRow_iff.mpr ⟨dotted, hlen ▸ hrow⟩)
  rw [if_neg hlen] at h
  -- any other is followed by a gap, and must not have ended in a dotted address
  cases dotted with
  | true => cases h
  | false =>
    simp only [Bool.false_eq_true, if_false, bind, Option.bind_eq_some_iff, Prod.exists,
      readChar_eq_some_iff] at h
    obtain ⟨-, cs₁, rfl, -, cs₂, rfl, h⟩ := h
    obtain ⟨tail, dotted', row', rest', hread', rfl, hrow', hle'⟩ :=
      readGroups_sound (7 - head.length) true cs₂
    rw [hread'] at h
    obtain ⟨-, rfl⟩ := Prod.mk.inj (Option.some.inj h)
    have hv6 : IsV6 (row ++ [':', ':'] ++ row') :=
      .short (m := head.length) (n := tail.length) (by omega) (isRow_iff.mpr hrow)
        (isLastRow_iff.mpr ⟨dotted', hrow'⟩)
    simpa using hv6

/-- **The reader of IPv6 addresses accepts all IPv6 addresses.** -/
theorem readV6_of_isV6 {cs : List Char} (h : IsV6 cs) : ∃ gs, readV6 cs = some (gs, []) := by
  cases h with
  | full h =>
    obtain ⟨dotted, hrow⟩ := isLastRow_iff.mp h
    obtain ⟨gs, hlen, hread⟩ := readGroups_complete hrow (Nat.le_refl 8) (Or.inl rfl)
    rw [List.append_nil] at hread
    exact ⟨gs, by simp [readV6, hread, hlen]⟩
  | @short m n head tail hm hhead htail =>
    obtain ⟨dotted, htail⟩ := isLastRow_iff.mp htail
    have hle : m ≤ 8 := by omega
    have hle' : n ≤ 7 - m := by omega
    have hcolons : AtEnd (':' :: ':' :: tail) := Or.inr ⟨tail, rfl⟩
    have hnil : AtEnd [] := Or.inl rfl
    obtain ⟨gs, hlen, hread⟩ := readGroups_complete (isRow_iff.mp hhead) hle hcolons
    obtain ⟨gs', hlen', hread'⟩ := readGroups_complete htail hle' hnil
    rw [List.append_nil] at hread'
    have hne : gs.length ≠ 8 := by omega
    have htext : head ++ [':', ':'] ++ tail = head ++ ':' :: ':' :: tail := by simp
    subst hlen
    simp only [htext, readV6, hread, if_neg hne, Bool.false_eq_true, if_false, readChar, if_true,
      bind, Option.bind, hread']
    exact ⟨_, rfl⟩

/-- **An IPv6 address does not start with an IPv4 address**, so that nothing else is read first. -/
theorem readV4_of_isV6 {cs : List Char} (h : IsV6 cs) : readV4 cs = none := by
  -- what is first is a group, or there are two colons
  have hrow : ∀ {n dotted row rest}, Row true n dotted row → (dotted = true → n ≠ 2) →
      AtEnd rest → readV4 (row ++ rest) = none := by
    intro n dotted row rest hrow hn hend
    cases hrow with
    | nil => exact hend.eq_none readV4_takes (fun w hw => hw.starts) true
    | dotted _ => exact absurd rfl (hn rfl)
    | cons hg hrow =>
      rw [colon, if_pos rfl, List.nil_append, List.append_assoc]
      exact readV4_group hg (hrow.atColon hend.atColon)
  cases h with
  | full h =>
    obtain ⟨dotted, h⟩ := isLastRow_iff.mp h
    rw [← List.append_nil cs]
    exact hrow h (fun _ => by decide) (Or.inl rfl)
  | @short m n head tail hm hhead htail =>
    rw [List.append_assoc]
    exact hrow (isRow_iff.mp hhead) nofun (Or.inr ⟨tail, rfl⟩)

/-- **A text is read as an address exactly if the grammar says that it is one.** -/
theorem parse?_isSome_iff (s : String) : (Address.parse? s).isSome = true ↔ IsLiteral s.toList := by
  unfold Address.parse?
  generalize s.toList = cs
  constructor
  · intro h
    -- a dotted address is looked for first, and settles the matter if there is one
    rcases hv : readV4 cs with _ | ⟨⟨a, b, c, d⟩, rest⟩
    · rw [hv] at h
      rcases hr : readV6 cs with _ | ⟨gs, _ | ⟨c, rest⟩⟩ <;> simp only [hr] at h
      · cases h
      · exact Or.inr (isV6_of_readV6 hr)
      · cases h
    · rw [hv] at h
      cases rest with
      | nil =>
        obtain ⟨w, hcs, hw, -⟩ := (readV4_takes cs []).mp ⟨_, hv⟩
        rw [List.append_nil] at hcs
        exact Or.inl (hcs ▸ hw)
      | cons c rest => cases h
  · rintro (h | h)
    · obtain ⟨⟨a, b, c, d⟩, hv⟩ := (readV4_takes cs []).mpr
        ⟨cs, (List.append_nil cs).symm, h, nofun⟩
      simp [hv]
    · obtain ⟨gs, hr⟩ := readV6_of_isV6 h
      simp [readV4_of_isV6 h, hr]

instance (s : String) : Decidable (IsLiteral s.toList) := decidable_of_iff _ (parse?_isSome_iff s)

/-- Seven groups and a gap are an address, eight and a gap are not; a dotted address may follow the
gap and may not come before it. -/
example : IsLiteral "1:2:3:4:5:6:7::".toList ∧ ¬IsLiteral "1:2:3:4:5:6:7:8::".toList ∧
    IsLiteral "::ffff:127.0.0.1".toList ∧ ¬IsLiteral "127.0.0.1::".toList := by
  decide +kernel

end SocketlessTls.Net
