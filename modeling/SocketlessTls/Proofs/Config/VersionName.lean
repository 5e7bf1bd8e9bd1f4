import SocketlessTls.Error

/-!
# Names of versions, in any case

The name of a version is read by putting the text in upper case and comparing it with the ten names
that are known, which are in upper case themselves. Upper case is that of Unicode, and so more texts
are read than one would think: `tls1.2` is a name of TLS 1.2, and so is `tlſ1.2`, and `ßl3` is one
of SSL 3.0. Which texts these are is a question about every character there is. Of those outside
ASCII only ten have a form within it, and all but two of the ten bring letters that no name has, or
an S before a T, which is nowhere in a name either.

What is left is said by `SocketlessTls.Text.Spelled`, which is about the letters of a name and knows
nothing of upper case: **a text is read as a version exactly if it spells one of its names**
(`SocketlessTls.Version.read_iff_spelled`).

* `SocketlessTls.Text.upperPoints_ascii` – the characters outside ASCII whose form is within it;
* `SocketlessTls.Text.upperForm_cases` – the characters that can take part in a name;
* `SocketlessTls.Text.flatMap_upperForm_eq_iff` – the texts whose upper case is a name;
* `SocketlessTls.Version.read_iff_spelled` – the texts that are read, what becomes of the others,
  and that the case of ASCII letters makes no difference.
-/

namespace SocketlessTls

namespace Text

/-! ### The tables -/

/-- The code points outside ASCII whose upper-case form is within it, with their forms: the sharp s,
the dotless i, the long s and the Latin ligatures. -/
def asciiForms : List (Nat × List Nat) :=
  [(0xdf, [0x53, 0x53]), (0x131, [0x49]), (0x17f, [0x53]), (0xfb00, [0x46, 0x46]),
   (0xfb01, [0x46, 0x49]), (0xfb02, [0x46, 0x4c]), (0xfb03, [0x46, 0x46, 0x49]),
   (0xfb04, [0x46, 0x46, 0x4c]), (0xfb05, [0x53, 0x54]), (0xfb06, [0x53, 0x54])]

/-- A run outside ASCII stays outside, or is one of the ten and alone in its run. -/
theorem caseRuns_ascii : ∀ r ∈ caseRuns,
    r.last < 128 ∨ 128 ≤ r.image ∨ r.first = r.last ∧ (r.first, [r.image]) ∈ asciiForms := by
  decide +kernel

theorem caseExpansions_ascii : ∀ e ∈ caseExpansions,
    128 ≤ e.1 ∧ ((∃ m ∈ e.2, 128 ≤ m) ∨ e ∈ asciiForms) := by
  decide +kernel

/-- The only run within ASCII is that of its small letters. -/
theorem caseRuns_eq : ∃ later, caseRuns = ⟨0x61, 0x7a, 1, 0x41⟩ :: later ∧
    ∀ r ∈ later, 128 ≤ r.first :=
  ⟨caseRuns.tail, rfl, by decide +kernel⟩

/-- What an entry of a list of pairs says is found in the list. -/
theorem mem_of_lookup {α β : Type} [BEq α] [LawfulBEq α] {entries : List (α × β)} {a : α} {b : β}
    (h : entries.lookup a = some b) : (a, b) ∈ entries := by
  obtain ⟨before, later, rfl, -⟩ := List.lookup_eq_some_iff.mp h
  exact List.mem_append_right before List.mem_cons_self

/-- **Whatever becomes ASCII is ASCII, or is one of the ten.** -/
theorem upperPoints_ascii {n : Nat} (hn : 128 ≤ n) (h : ∀ m ∈ upperPoints n, m < 128) :
    (n, upperPoints n) ∈ asciiForms := by
  rcases hlookup : caseExpansions.lookup n with _ | ms
  · rcases hfind : caseRuns.findSome? (·.image? n) with _ | m
    -- a character that is its own form is not in ASCII
    · have hown : upperPoints n = [n] := by rw [upperPoints, hlookup, hfind]; rfl
      have hlt := h n (hown ▸ List.mem_singleton_self n)
      omega
    · have hform : upperPoints n = [m] := by rw [upperPoints, hlookup, hfind]; rfl
      have hm : m < 128 := h m (hform ▸ List.mem_singleton_self m)
      obtain ⟨r, hr, himage⟩ := List.exists_of_findSome?_eq_some hfind
      obtain ⟨hcond, hval⟩ := Option.ite_none_right_eq_some.mp himage
      obtain rfl := Option.some.inj hval
      rcases caseRuns_ascii r hr with hlast | hout | ⟨hone, hmem⟩
      · omega
      · omega
      · obtain rfl : n = r.first := by omega
        rw [hform, Nat.sub_self, Nat.add_zero]
        exact hmem
  · have hform : upperPoints n = ms := by rw [upperPoints, hlookup]; rfl
    rcases (caseExpansions_ascii _ (mem_of_lookup hlookup)).2 with ⟨m, hm, hge⟩ | hmem
    · have hlt := h m (hform ▸ hm)
      exact absurd hge (Nat.not_le_of_lt hlt)
    · rw [hform]
      exact hmem

/-- The capital letter of a small one within ASCII, and any other code point as it is. -/
def capitalPoint (n : Nat) : Nat := if 97 ≤ n ∧ n ≤ 122 then n - 32 else n

/-- **Within ASCII the small letters have the capital ones for their forms**, and nothing else
changes. -/
theorem upperPoints_of_ascii {n : Nat} (hn : n < 128) : upperPoints n = [capitalPoint n] := by
  have hlookup : caseExpansions.lookup n = none := by
    refine List.lookup_eq_none_iff.mpr fun e he => ?_
    have hge := (caseExpansions_ascii e he).1
    simp only [bne_iff_ne, ne_eq]
    omega
  obtain ⟨later, hruns, hlater⟩ := caseRuns_eq
  have hnone : later.findSome? (·.image? n) = none := by
    refine List.findSome?_eq_none_iff.mpr fun r hr => ?_
    have hge := hlater r hr
    rw [CaseRun.image?, if_neg (by omega)]
  rw [upperPoints, hlookup, hruns, List.findSome?_cons, hnone, CaseRun.image?, capitalPoint]
  by_cases hsmall : 97 ≤ n ∧ n ≤ 122
  · rw [if_pos ⟨hsmall.1, hsmall.2, Nat.mod_one _⟩, if_pos hsmall]
    show [0x41 + (n - 0x61)] = [n - 32]
    congr 1
    omega
  · rw [if_neg (fun h => hsmall ⟨h.1, h.2.1⟩), if_neg hsmall]
    rfl

/-! ### Characters -/

/-- The characters of the names of versions. -/
def nameChars : List Char := ['S', 'L', 'T', 'V', '0', '1', '2', '3', '.']

/-- What is to hold of each character of a list is decided along the list, and not among all the
characters there are. -/
theorem forall_mem_of_all {P : Char → Prop} [DecidablePred P] {cs : List Char}
    (h : (cs.all fun c => decide (P c)) = true) : ∀ c ∈ cs, P c :=
  fun c hc => of_decide_eq_true (List.all_eq_true.mp h c hc)

/-- What holds of the first 128 code points holds of the characters of ASCII. -/
theorem forall_ascii {P : Char → Prop} (h : ∀ n < 128, P (Char.ofNat n)) :
    ∀ c : Char, c.toNat < 128 → P c := by
  intro c hc
  have hn := h c.toNat hc
  rwa [Char.ofNat_toNat] at hn

/-- A code point that is not of a character stands for NUL, and any other for itself. -/
theorem eq_toNat_of_ofNat {m : Nat} {d : Char} (h : Char.ofNat m = d) (hd : d ≠ '\x00') :
    m = d.toNat := by
  subst h
  by_cases hm : m.isValidChar
  · rw [Char.ofNat, dif_pos hm]
    rfl
  · rw [Char.ofNat, dif_neg hm] at hd
    exact absurd rfl hd

/-- A character of ASCII has one character for its form, and is that character or its small
letter. -/
theorem upperForm_of_ascii {c : Char} (hc : c.toNat < 128) :
    ∃ d, upperForm c = [d] ∧ (c = d ∨ c = d.toLower) := by
  have hcase : ∀ c : Char, c.toNat < 128 → c = Char.ofNat (capitalPoint c.toNat) ∨
      c = (Char.ofNat (capitalPoint c.toNat)).toLower :=
    forall_ascii (by decide +kernel)
  exact ⟨_, by rw [upperForm, upperPoints_of_ascii hc]; rfl, hcase c hc⟩

/-- A character of a name is its own form, and that of its small letter. -/
theorem upperForm_nameChar : ∀ d ∈ nameChars, upperForm d = [d] ∧ upperForm d.toLower = [d] :=
  forall_mem_of_all (by decide +kernel)

/-- **Which characters can take part in a name**: a letter of it, large or small, the long s, the
sharp s, and the two ligatures of an S and a T. -/
theorem upperForm_cases {c : Char} (h : ∀ d ∈ upperForm c, d ∈ nameChars) :
    (∃ d, upperForm c = [d] ∧ (c = d ∨ c = d.toLower)) ∨ (c = 'ſ' ∧ upperForm c = ['S']) ∨
      (c = 'ß' ∧ upperForm c = ['S', 'S']) ∨ upperForm c = ['S', 'T'] := by
  rcases Nat.lt_or_ge c.toNat 128 with hc | hc
  · exact Or.inl (upperForm_of_ascii hc)
  refine Or.inr ?_
  have hascii : ∀ m ∈ upperPoints c.toNat, m < 128 := by
    intro m hm
    have hmem := h (Char.ofNat m) (List.mem_map_of_mem hm)
    have hnul : ∀ d ∈ nameChars, d ≠ '\x00' ∧ d.toNat < 128 := forall_mem_of_all (by decide)
    rw [eq_toNat_of_ofNat rfl (hnul _ hmem).1]
    exact (hnul _ hmem).2
  -- of the ten that are left, six have a form with an I or an F in it
  have hten : ∀ e ∈ asciiForms, ((e.2.map Char.ofNat).all fun d => decide (d ∈ nameChars)) = true →
      (Char.ofNat e.1 = 'ſ' ∧ e.2.map Char.ofNat = ['S']) ∨
        (Char.ofNat e.1 = 'ß' ∧ e.2.map Char.ofNat = ['S', 'S']) ∨
        e.2.map Char.ofNat = ['S', 'T'] := by
    decide
  have hform : (Char.ofNat c.toNat = 'ſ' ∧ upperForm c = ['S']) ∨
      (Char.ofNat c.toNat = 'ß' ∧ upperForm c = ['S', 'S']) ∨ upperForm c = ['S', 'T'] :=
    hten _ (upperPoints_ascii hc hascii)
      (List.all_eq_true.mpr fun d hd => decide_eq_true (h d hd))
  rwa [Char.ofNat_toNat] at hform

/-- **The case of a letter of ASCII makes no difference to its form.** -/
theorem upperForm_toLower (c : Char) : upperForm c.toLower = upperForm c := by
  rcases Nat.lt_or_ge c.toNat 128 with hc | hc
  · have hcase : ∀ c : Char, c.toNat < 128 →
        c.toLower.toNat < 128 ∧ capitalPoint c.toLower.toNat = capitalPoint c.toNat :=
      forall_ascii (by decide +kernel)
    obtain ⟨hlt, hsame⟩ := hcase c hc
    rw [upperForm, upperForm, upperPoints_of_ascii hlt, upperPoints_of_ascii hc, hsame]
  · have hno : ¬('A'.val ≤ c.val ∧ c.val ≤ 'Z'.val) := by
      rintro ⟨-, hle⟩
      have hle : c.toNat ≤ 90 := hle
      omega
    have hsame : c.toLower = c := dif_neg hno
    rw [hsame]

/-! ### Spelling a name -/

/-- **A text spells a name** given in capital letters: each character is that of the name or its
small letter, but an S may be a long s, and two of them in a row a sharp s. -/
inductive Spelled : (name text : List Char) → Prop
  | nil : Spelled [] []
  | capital (c : Char) {name text : List Char} (rest : Spelled name text) :
      Spelled (c :: name) (c :: text)
  | small (c : Char) {name text : List Char} (rest : Spelled name text) :
      Spelled (c :: name) (c.toLower :: text)
  | longS {name text : List Char} (rest : Spelled name text) :
      Spelled ('S' :: name) ('ſ' :: text)
  | sharpS {name text : List Char} (rest : Spelled name text) :
      Spelled ('S' :: 'S' :: name) ('ß' :: text)

/-- What spells a name becomes the name in upper case. -/
theorem Spelled.flatMap_upperForm {name text : List Char} (h : Spelled name text)
    (hname : ∀ c ∈ name, c ∈ nameChars) : text.flatMap upperForm = name := by
  have hlongS : upperForm 'ſ' = ['S'] := by decide +kernel
  have hsharpS : upperForm 'ß' = ['S', 'S'] := by decide +kernel
  induction h with
  | nil => rfl
  | capital c rest ih =>
    obtain ⟨hc, hrest⟩ := List.forall_mem_cons.mp hname
    rw [List.flatMap_cons, (upperForm_nameChar c hc).1, ih hrest]
    rfl
  | small c rest ih =>
    obtain ⟨hc, hrest⟩ := List.forall_mem_cons.mp hname
    rw [List.flatMap_cons, (upperForm_nameChar c hc).2, ih hrest]
    rfl
  | longS rest ih =>
    obtain ⟨-, hrest⟩ := List.forall_mem_cons.mp hname
    rw [List.flatMap_cons, hlongS, ih hrest]
    rfl
  | sharpS rest ih =>
    obtain ⟨-, hmore⟩ := List.forall_mem_cons.mp hname
    obtain ⟨-, hrest⟩ := List.forall_mem_cons.mp hmore
    rw [List.flatMap_cons, hsharpS, ih hrest]
    rfl

/-- **The texts whose upper case is a name are those that spell it**, for any name with no S before
a T; by induction on the text. -/
theorem flatMap_upperForm_eq_iff {name : List Char} (hname : ∀ c ∈ name, c ∈ nameChars)
    (hST : ¬['S', 'T'] <:+: name) (text : List Char) :
    text.flatMap upperForm = name ↔ Spelled name text := by
  refine ⟨fun h => ?_, fun h => h.flatMap_upperForm hname⟩
  induction text generalizing name with
  | nil =>
    subst h
    exact .nil
  | cons c text ih =>
    subst h
    rw [List.flatMap_cons] at hname hST ⊢
    have hrest : Spelled (text.flatMap upperForm) text := by
      refine ih (fun d hd => hname d (List.mem_append_right _ hd)) (fun hin => hST ?_) rfl
      exact hin.trans (List.suffix_append _ _).isInfix
    rcases upperForm_cases fun d hd => hname d (List.mem_append_left _ hd) with
      ⟨d, hform, rfl | rfl⟩ | ⟨rfl, hform⟩ | ⟨rfl, hform⟩ | hform
    all_goals rw [hform]
    · exact .capital c hrest
    · exact .small d hrest
    · exact .longS hrest
    · exact .sharpS hrest
    · rw [hform] at hST
      exact absurd (List.prefix_append _ _).isInfix hST

/-- What spells a name is no longer than it, and has no characters but those of names, of either
case, the long s and the sharp s. -/
theorem Spelled.chars {name text : List Char} (h : Spelled name text)
    (hname : ∀ c ∈ name, c ∈ nameChars) : text.length ≤ name.length ∧
      ∀ c ∈ text, c.toUpper ∈ nameChars ∨ c = 'ſ' ∨ c = 'ß' := by
  have hcase : ∀ d ∈ nameChars, d.toUpper ∈ nameChars ∧ d.toLower.toUpper ∈ nameChars :=
    forall_mem_of_all (by decide)
  induction h with
  | nil => exact ⟨Nat.le_refl 0, nofun⟩
  | capital c rest ih =>
    obtain ⟨hc, hrest⟩ := List.forall_mem_cons.mp hname
    obtain ⟨hlength, hchars⟩ := ih hrest
    exact ⟨Nat.succ_le_succ hlength,
      List.forall_mem_cons.mpr ⟨Or.inl (hcase c hc).1, hchars⟩⟩
  | small c rest ih =>
    obtain ⟨hc, hrest⟩ := List.forall_mem_cons.mp hname
    obtain ⟨hlength, hchars⟩ := ih hrest
    exact ⟨Nat.succ_le_succ hlength,
      List.forall_mem_cons.mpr ⟨Or.inl (hcase c hc).2, hchars⟩⟩
  | longS rest ih =>
    obtain ⟨-, hrest⟩ := List.forall_mem_cons.mp hname
    obtain ⟨hlength, hchars⟩ := ih hrest
    exact ⟨Nat.succ_le_succ hlength,
      List.forall_mem_cons.mpr ⟨Or.inr (Or.inl rfl), hchars⟩⟩
  | sharpS rest ih =>
    obtain ⟨-, hmore⟩ := List.forall_mem_cons.mp hname
    obtain ⟨-, hrest⟩ := List.forall_mem_cons.mp hmore
    obtain ⟨hlength, hchars⟩ := ih hrest
    exact ⟨Nat.succ_le_succ (Nat.le_succ_of_le hlength),
      List.forall_mem_cons.mpr ⟨Or.inr (Or.inr rfl), hchars⟩⟩

end Text

namespace Version

open Text

/-- A text spells one of the names of a version. -/
def Spells (v : Version) (s : String) : Prop := ∃ name ∈ v.readNames, Spelled name.toList s.toList

/-- What the names of versions have in common. -/
theorem readNames_chars : ∀ v : Version, ∀ name ∈ v.readNames, name.toList.length ≤ 7 ∧
    (∀ c ∈ name.toList, c ∈ nameChars) ∧ ¬['S', 'T'] <:+: name.toList := by
  have hall : ∀ v : Version, ∀ name ∈ v.readNames, name.toList.length ≤ 7 ∧
      (name.toList.all fun c => decide (c ∈ nameChars)) = true ∧ ¬['S', 'T'] <:+: name.toList := by
    intro v
    cases v <;> decide +kernel
  intro v name hmem
  obtain ⟨hlength, hchars, hST⟩ := hall v name hmem
  exact ⟨hlength, forall_mem_of_all hchars, hST⟩

/-- No name is of two versions. -/
theorem readNames_disjoint : ∀ v w : Version, ∀ name ∈ v.readNames, name ∈ w.readNames → v = w := by
  intro v w
  cases v <;> cases w <;> decide +kernel

/-- The upper case of a text is a name of a version exactly if the text spells one. -/
theorem upperCase_mem_readNames_iff (s : String) (v : Version) :
    upperCase s ∈ v.readNames ↔ v.Spells s := by
  have hname : ∀ name ∈ v.readNames, upperCase s = name ↔ Spelled name.toList s.toList := by
    intro name hmem
    obtain ⟨-, hchars, hST⟩ := readNames_chars v name hmem
    rw [← flatMap_upperForm_eq_iff hchars hST, ← String.toList_inj, upperCase,
      String.toList_ofList]
  constructor
  · intro h
    exact ⟨_, h, (hname _ h).mp rfl⟩
  · rintro ⟨name, hmem, hspelled⟩
    rw [(hname name hmem).mpr hspelled]
    exact hmem

/-- A text is read as the version of which it spells a name. -/
theorem parse?_eq_some_iff (s : String) (v : Version) : parse? s = some v ↔ v.Spells s := by
  rw [← upperCase_mem_readNames_iff, parse?]
  constructor
  · intro h
    have hmem := List.find?_some h
    exact of_decide_eq_true hmem
  · intro h
    rcases hfind : all.find? fun w => decide (upperCase s ∈ w.readNames) with _ | w
    · have hall : v ∈ all := by cases v <;> decide
      exact absurd (decide_eq_true h) (List.find?_eq_none.mp hfind v hall)
    · have hmem := List.find?_some hfind
      rw [hfind, readNames_disjoint w v _ (of_decide_eq_true hmem) h]

/-- Texts that differ in the case of ASCII letters only are read as the same version, or as none. -/
theorem parse?_eq_of_toLower {s t : String}
    (h : s.toList.map Char.toLower = t.toList.map Char.toLower) : parse? s = parse? t := by
  have hfold : ∀ text : List Char,
      text.flatMap upperForm = (text.map Char.toLower).flatMap upperForm := by
    intro text
    rw [List.flatMap_map]
    simp only [upperForm_toLower]
  have hupper : upperCase s = upperCase t := by
    rw [upperCase, upperCase, hfold, h, ← hfold]
  rw [parse?, parse?, hupper]

/-- **A text is read as a version exactly if it spells one of its names.** Any other text is refused
as it stands, and not in upper case. What is read has up to seven characters, all of them letters,
digits and dots of ASCII but for the long s and the sharp s; and which version is read, if any, does
not depend on the case of ASCII letters. -/
theorem read_iff_spelled :
    (∀ s v, read s = .ok v ↔ v.Spells s) ∧
    (∀ s e, read s = .error e ↔ e = .unknownVersion s ∧ ∀ v : Version, ¬v.Spells s) ∧
    (∀ s v, read s = .ok v → s.toList.length ≤ 7 ∧
      ∀ c ∈ s.toList, c.toUpper ∈ nameChars ∨ c = 'ſ' ∨ c = 'ß') ∧
    ∀ s t, s.toList.map Char.toLower = t.toList.map Char.toLower →
      (read s).toOption = (read t).toOption := by
  have hok : ∀ s v, read s = .ok v ↔ v.Spells s := by
    intro s v
    rw [← parse?_eq_some_iff, read]
    rcases parse? s with _ | w
    · exact iff_of_false nofun nofun
    · exact ⟨fun h => congrArg some (Except.ok.inj h), fun h => congrArg _ (Option.some.inj h)⟩
  refine ⟨hok, fun s e => ?_, fun s v h => ?_, fun s t h => ?_⟩
  · simp only [← hok]
    rw [read]
    rcases parse? s with _ | w
    · refine ⟨fun h => ⟨(Except.error.inj h).symm, nofun⟩, fun h => ?_⟩
      rw [h.1]
    · exact iff_of_false nofun fun h => h.2 w rfl
  · obtain ⟨name, hmem, hspelled⟩ := (hok s v).mp h
    obtain ⟨hlength, hchars, -⟩ := readNames_chars v name hmem
    obtain ⟨hshort, hall⟩ := hspelled.chars hchars
    exact ⟨Nat.le_trans hshort hlength, hall⟩
  · rw [read, read, parse?_eq_of_toLower h]
    rcases parse? t with _ | w <;> rfl

/-- A sharp s at the front of a name of SSL 3.0, and the same with other letters in capitals. -/
theorem sharp_s_read_in_any_case :
    read "ßlv3" = .ok .ssl3 ∧
      (∀ c ∈ "ßlv3".toList, c.toUpper ∈ nameChars ∨ c = 'ſ' ∨ c = 'ß') ∧
      (read "ßLv3").toOption = (read "ßlv3").toOption := by
  obtain ⟨hok, -, hchars, hcase⟩ := read_iff_spelled
  have hspelled : Spelled "SSLV3".toList "ßlv3".toList :=
    .sharpS (.small 'L' (.small 'V' (.capital '3' .nil)))
  have hread := (hok "ßlv3" .ssl3).mpr ⟨"SSLV3", List.mem_cons_self, hspelled⟩
  exact ⟨hread, (hchars _ _ hread).2, hcase _ _ (by decide +kernel)⟩

end Version

end SocketlessTls
