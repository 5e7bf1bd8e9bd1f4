import SocketlessTls.Proofs.Net.Gap
import SocketlessTls.Proofs.Net.Literal

/-!
# Addresses read back

Wherever an address is written, somebody may read it. **What is written for an address is read as
that address** (`SocketlessTls.Net.Address.parse?_text`), so that two addresses never look the same.

The words that are written are words of the grammar, and the readers find their values. The groups
of an address are written in one row, or in two rows with a gap between them. The gap is as long as
groups are missing, so it does not matter for reading which of several runs of zeros it stands for.
And an address that maps an IPv4 one is written with that, which the reader takes for two groups.

* `SocketlessTls.Net.digitsValue_toDigits` – numbers;
* `SocketlessTls.Net.readOctet_toDigits`, `readGroup_toDigits`, `readV4_dotted` – words;
* `SocketlessTls.Net.readGroups_words`, `readV6_v6Text` – rows of groups, and IPv6 addresses;
* `SocketlessTls.Net.Address.ofBytes?_eq_some_iff` – an address and its bytes.
-/

namespace SocketlessTls.Net

/-! ### Numbers -/

section Digits

variable {base : ℕ} (hbase : 1 < base) (hle : base ≤ 16)
include hbase

/-- What is true of the digits of a number holds for one digit, and when a digit is added. -/
theorem toDigits_induction {P : ℕ → List Char → Prop} (single : ∀ n < base, P n [n.digitChar])
    (add : ∀ n, base ≤ n → P (n / base) (Nat.toDigits base (n / base)) →
      P n (Nat.toDigits base (n / base) ++ [(n % base).digitChar])) (n : ℕ) :
    P n (Nat.toDigits base n) := by
  induction n using Nat.strongRecOn with
  | ind n ih =>
    by_cases hn : n < base
    · rw [Nat.toDigits_of_lt_base hn]
      exact single n hn
    · have hge : base ≤ n := Nat.le_of_not_lt hn
      rw [Nat.toDigits_of_base_le hbase hge]
      exact add n hge (ih _ (Nat.div_lt_self (by omega) hbase))

include hle

omit hbase in
/-- The value of a digit as it is written. -/
theorem digit?_digitChar {n : ℕ} (hn : n < base) : digit? base n.digitChar = some n := by
  have hvalue : ∀ n < 16, Bytes.hexValue? n.digitChar = some n := by decide
  simp only [digit?, hvalue n (by omega), if_pos hn]

/-- A number is written in digits. -/
theorem isSome_digit?_of_mem_toDigits (n : ℕ) :
    ∀ c ∈ Nat.toDigits base n, (digit? base c).isSome = true := by
  have hdigit : ∀ n < base, (digit? base n.digitChar).isSome = true := fun n hn => by
    rw [digit?_digitChar hle hn]
    rfl
  refine toDigits_induction hbase (P := fun _ ds => ∀ c ∈ ds, (digit? base c).isSome = true) ?_ ?_ n
  · intro n hn
    exact List.forall_mem_singleton.mpr (hdigit n hn)
  · intro n _ ih
    exact List.forall_mem_append.mpr
      ⟨ih, List.forall_mem_singleton.mpr (hdigit _ (Nat.mod_lt n (by omega)))⟩

/-- **The digits of a number spell that number.** -/
theorem digitsValue_toDigits (n : ℕ) : digitsValue base (Nat.toDigits base n) = n := by
  refine toDigits_induction hbase (P := fun n ds => digitsValue base ds = n) ?_ ?_ n
  · intro n hn
    simp [digitsValue, digit?_digitChar hle hn]
  · intro n _ ih
    unfold digitsValue at ih ⊢
    rw [List.foldl_append, ih, List.foldl_cons, List.foldl_nil,
      digit?_digitChar hle (Nat.mod_lt n (by omega)), Option.getD_some, Nat.mul_comm]
    exact Nat.div_add_mod n base

/-- Only zero is written with a zero in front. -/
theorem eq_zero_of_head?_toDigits {n : ℕ} (h : (Nat.toDigits base n).head? = some '0') : n = 0 := by
  revert h
  refine toDigits_induction hbase (P := fun n ds => ds.head? = some '0' → n = 0) ?_ ?_ n
  · intro n hn h
    have hzero := digit?_digitChar hle hn
    rw [Option.some.inj h, show '0' = Nat.digitChar 0 from rfl,
      digit?_digitChar hle (by omega : 0 < base)] at hzero
    exact (Option.some.inj hzero).symm
  · intro n hn ih h
    have hne : Nat.toDigits base (n / base) ≠ [] := Nat.toDigits_ne_nil
    obtain ⟨c, cs, hcs⟩ := List.exists_cons_of_ne_nil hne
    rw [hcs, List.cons_append] at h
    have hpos : 0 < n / base := Nat.div_pos hn (by omega)
    have hzero := ih (hcs ▸ h)
    omega

end Digits

/-! ### Words -/

/-- An octet is written as an octet. -/
theorem isOctet_toDigits (x : UInt8) : IsOctet (Nat.toDigits 10 x.toNat) where
  digits c hc := (isSome_digit?_ten c).mp
    (isSome_digit?_of_mem_toDigits (by decide) (by decide) x.toNat c hc)
  pos := List.length_pos_of_ne_nil Nat.toDigits_ne_nil
  short := (Nat.length_toDigits_le_iff (by decide) (by decide)).mpr
    (Nat.lt_trans x.toNat_lt (by decide))
  leading hlen hhead := by
    rw [eq_zero_of_head?_toDigits (by decide) (by decide) hhead] at hlen
    exact absurd hlen (by decide)
  value := by
    rw [Nat.ofDigitChars_toDigits (by decide) (by decide)]
    exact Nat.le_of_lt_succ x.toNat_lt

/-- A group as it is written. -/
def groupWord (g : UInt16) : List Char := Nat.toDigits 16 g.toNat

/-- A group is written as a group. -/
theorem isGroup_groupWord (g : UInt16) : IsGroup (groupWord g) where
  digits c hc := (isSome_digit?_sixteen c).mp
    (isSome_digit?_of_mem_toDigits (by decide) (by decide) g.toNat c hc)
  pos := List.length_pos_of_ne_nil Nat.toDigits_ne_nil
  short := (Nat.length_toDigits_le_iff (by decide) (by decide)).mpr g.toNat_lt

/-- **An octet is read back.** -/
theorem readOctet_toDigits (x : UInt8) {rest : List Char} (hrest : NotNext IsDecimal rest) :
    readOctet (Nat.toDigits 10 x.toNat ++ rest) = some (x, rest) := by
  have hword := isOctet_toDigits x
  obtain ⟨a, ha⟩ := (readOctet_takes _ rest).mpr ⟨_, rfl, hword, hrest⟩
  have hrun := (digitRun_eq_iff isSome_digit?_ten _ _ rest).mpr ⟨rfl, hword.digits, hrest⟩
  simp only [readOctet, hrun, digitsValue_toDigits (by decide : 1 < 10) (by decide)] at ha ⊢
  split at ha
  · cases ha
  · next hgood => rw [if_neg hgood, UInt8.ofNat_toNat]

/-- **A group is read back.** -/
theorem readGroup_groupWord (g : UInt16) {rest : List Char} (hrest : NotNext IsHex rest) :
    readGroup (groupWord g ++ rest) = some (g, rest) := by
  have hword := isGroup_groupWord g
  obtain ⟨a, ha⟩ := (readGroup_takes _ rest).mpr ⟨_, rfl, hword, hrest⟩
  have hrun := (digitRun_eq_iff isSome_digit?_sixteen _ _ rest).mpr ⟨rfl, hword.digits, hrest⟩
  have hvalue : digitsValue 16 (groupWord g) = g.toNat :=
    digitsValue_toDigits (by decide) (by decide) g.toNat
  simp only [readGroup, hrun, hvalue] at ha ⊢
  split at ha
  · cases ha
  · next hgood => rw [if_neg hgood, UInt16.ofNat_toNat]

theorem toList_dotted (a b c d : UInt8) :
    (dotted a b c d).toList = Nat.toDigits 10 a.toNat ++ '.' :: (Nat.toDigits 10 b.toNat ++
      '.' :: (Nat.toDigits 10 c.toNat ++ '.' :: Nat.toDigits 10 d.toNat)) := by
  simp [dotted, Nat.toList_repr]

/-- **A dotted address is read back**, number by number. -/
theorem readV4_dotted (a b c d : UInt8) (rest : List Char) (hrest : NotNext IsDecimal rest) :
    readV4 ((dotted a b c d).toList ++ rest) = some ((a, b, c, d), rest) := by
  have hdot : ∀ cs, NotNext IsDecimal ('.' :: cs) := by
    rintro cs c hc
    obtain rfl := Option.some.inj hc
    unfold IsDecimal
    decide
  simp only [toList_dotted, List.append_assoc, List.cons_append, readV4, readChar, bind,
    Option.bind, readOctet_toDigits _ (hdot _), readOctet_toDigits _ hrest, if_true]
  rfl

/-! ### Rows of groups -/

/-- What is read in front of a row is read behind a colon as well. -/
theorem afterColon_eq_some {α : Type} {read : Reader α} {cs rest : List Char} {a : α}
    (h : read cs = some (a, rest)) (first : Bool) :
    afterColon first read (colon first ++ cs) = some (a, rest) := by
  cases first with
  | true => exact h
  | false => simpa [afterColon, colon, readChar, bind, Option.bind] using h

theorem toList_colonGroups (gs : List UInt16) :
    (colonGroups gs).toList = colons true (gs.map groupWord) := by
  simp [colonGroups, colons_true, Bytes.hexOfNat, Function.comp_def]
  rfl

theorem AtColon.colons {rest : List Char} (h : AtColon rest) (ws : List (List Char)) :
    AtColon (colons false ws ++ rest) := by
  cases ws with
  | nil => exact h
  | cons w ws => exact fun c hc => (Option.some.inj hc).symm

/-- **Groups in front of a row are read group by group**, by induction on the groups, whatever the
rest of the row is. -/
theorem readGroups_words (gs : List UInt16) {limit : ℕ} {first dotted : Bool}
    {rest rest' : List Char} {gs' : List UInt16} (hrest : AtColon rest)
    (hread : readGroups limit (first && gs.isEmpty) rest = (gs', dotted, rest')) :
    readGroups (gs.length + limit) first (colons first (gs.map groupWord) ++ rest) =
      (gs ++ gs', dotted, rest') := by
  induction gs generalizing first with
  | nil =>
    rw [List.isEmpty_nil, Bool.and_true] at hread
    rw [List.length_nil, Nat.zero_add]
    exact hread
  | cons g gs ih =>
    have hnext := hrest.colons (gs.map groupWord)
    have hlimit : (g :: gs).length + limit = gs.length + limit + 1 := Nat.succ_add gs.length limit
    have htext : colons first ((g :: gs).map groupWord) ++ rest =
        colon first ++ (groupWord g ++ (colons false (gs.map groupWord) ++ rest)) := by
      simp only [List.map_cons, colons, List.append_assoc]
    rw [hlimit, htext]
    refine readGroups_group ?_ (afterColon_eq_some (readGroup_groupWord g
      (hnext.notNext fun _ => id)) first) (ih ?_)
    · rw [afterColon_eq_none (readV4_group (isGroup_groupWord g) hnext) first, ite_self]
    · rw [Bool.false_and]
      rwa [List.isEmpty_cons, Bool.and_false] at hread

/-- **A row of groups is read back**, if there is room for it and the row is over. -/
theorem readGroups_colonGroups (gs : List UInt16) (limit : ℕ) (rest : List Char)
    (hle : gs.length ≤ limit) (hend : AtEnd rest) :
    readGroups limit true ((colonGroups gs).toList ++ rest) = (gs, false, rest) := by
  have hnil : Row (true && gs.isEmpty) 0 false [] := .nil
  obtain ⟨gs', hlen, hread⟩ := readGroups_complete hnil (Nat.zero_le (limit - gs.length)) hend
  obtain rfl := List.eq_nil_of_length_eq_zero hlen
  have hwords := readGroups_words gs hend.atColon hread
  rwa [Nat.add_sub_cancel' hle, List.append_nil, ← toList_colonGroups] at hwords

/-- A group is the two bytes of it. -/
theorem ofNat_bytes (g : UInt16) :
    UInt16.ofNat ((UInt8.ofNat (g.toNat / 256)).toNat * 256 + (UInt8.ofNat g.toNat).toNat) = g := by
  have hlt := g.toNat_lt
  rw [← UInt16.toNat_inj, UInt16.toNat_ofNat', UInt8.toNat_ofNat', UInt8.toNat_ofNat']
  omega

/-- Two groups that are written as a dotted address. -/
theorem groupsOfV4_bytes (hi lo : UInt16) :
    groupsOfV4 (UInt8.ofNat (hi.toNat / 256)) (UInt8.ofNat hi.toNat)
      (UInt8.ofNat (lo.toNat / 256)) (UInt8.ofNat lo.toNat) = [hi, lo] := by
  rw [groupsOfV4, ofNat_bytes, ofNat_bytes]

/-- **A dotted address behind a group is read back**, as two groups. -/
theorem readGroups_dotted_row (g : UInt16) (a b c d : UInt8) (limit : ℕ) (hlimit : limit ≠ 0) :
    readGroups (limit + 2) true (groupWord g ++ ':' :: (dotted a b c d).toList) =
      (g :: groupsOfV4 a b c d, true, []) := by
  have hcolon : AtColon (':' :: (dotted a b c d).toList) := fun c hc => (Option.some.inj hc).symm
  have hread : afterColon false readV4 (':' :: (dotted a b c d).toList) =
      some ((a, b, c, d), []) := by
    have h := readV4_dotted a b c d [] nofun
    rw [List.append_nil] at h
    exact afterColon_eq_some h false
  have hrow : readGroups (limit + 1) (true && [g].isEmpty) (':' :: (dotted a b c d).toList) =
      (groupsOfV4 a b c d, true, []) := by
    simp only [List.isEmpty_cons, Bool.and_false, readGroups, if_neg hlimit, hread]
  have hwords := readGroups_words [g] hcolon hrow
  simpa [colons, colon, Nat.add_comm 1] using hwords

/-! ### Addresses -/

/-- Two rows with a gap between them are as many groups as there have to be. -/
theorem readV6_gap {head tail : List UInt16} {cs cs' : List Char} {dotted : Bool}
    (hhead : readGroups 8 true cs = (head, false, ':' :: ':' :: cs')) (hlen : head.length ≠ 8)
    (htail : readGroups (7 - head.length) true cs' = (tail, dotted, [])) :
    readV6 cs = some (head ++ List.replicate (8 - head.length - tail.length) 0 ++ tail, []) := by
  simp only [readV6, hhead, if_neg hlen, Bool.false_eq_true, if_false, readChar, if_true, bind,
    Option.bind, htail]
  rfl

/-- The groups around a run of zeros are read as all groups, if the run is a gap. -/
theorem readV6_around_zeros {gs : List UInt16} (hlen : gs.length = 8) {run : ZeroRun}
    (hzeros : ZerosAt gs run.start run.length) (hpos : 0 < run.length) :
    readV6 ((colonGroups (gs.take run.start)).toList ++ ':' :: ':' ::
      (colonGroups (gs.drop (run.start + run.length))).toList) = some (gs, []) := by
  have hle := hzeros.le_length hpos
  have hhead : (gs.take run.start).length = run.start := List.length_take_of_le (by omega)
  have htail : (gs.drop (run.start + run.length)).length = 8 - (run.start + run.length) := by
    rw [List.length_drop, hlen]
  have hreadHead := readGroups_colonGroups (gs.take run.start) 8
    (':' :: ':' :: (colonGroups (gs.drop (run.start + run.length))).toList) (by omega)
    (Or.inr ⟨_, rfl⟩)
  have hreadTail := readGroups_colonGroups (gs.drop (run.start + run.length))
    (7 - (gs.take run.start).length) [] (by omega) (Or.inl rfl)
  rw [List.append_nil] at hreadTail
  -- the gap is as long as the run
  have hgap : 8 - (gs.take run.start).length - (gs.drop (run.start + run.length)).length =
      run.length := by omega
  have hread := readV6_gap hreadHead (by omega) hreadTail
  rwa [hgap, hzeros.split] at hread

/-- An IPv4 address behind a gap and a group is read as all groups. -/
theorem readV6_mapped (hi lo : UInt16) :
    readV6 (':' :: ':' :: (groupWord 0xffff ++ ':' :: (dotted (UInt8.ofNat (hi.toNat / 256))
      (UInt8.ofNat hi.toNat) (UInt8.ofNat (lo.toNat / 256)) (UInt8.ofNat lo.toNat)).toList)) =
      some ([0, 0, 0, 0, 0, 0xffff, hi, lo], []) := by
  have hhead := fun cs => readGroups_colonGroups [] 8 (':' :: ':' :: cs) (by decide)
    (Or.inr ⟨cs, rfl⟩)
  have htail := readGroups_dotted_row 0xffff (UInt8.ofNat (hi.toNat / 256))
    (UInt8.ofNat hi.toNat) (UInt8.ofNat (lo.toNat / 256)) (UInt8.ofNat lo.toNat) 5 (by decide)
  rw [groupsOfV4_bytes] at htail
  exact readV6_gap (hhead _) (by decide) htail

/-- **Eight groups are read back**, whether they are written in full, with a gap, or with an IPv4
address. -/
theorem readV6_v6Text {gs : List UInt16} (hlen : gs.length = 8) :
    readV6 (v6Text gs).toList = some (gs, []) := by
  unfold v6Text
  split
  next hi lo =>
    rw [String.toList_append]
    exact readV6_mapped hi lo
  next =>
    have hrun := longestZeroRun_isLongest gs
    generalize longestZeroRun 0 ⟨0, 0⟩ ⟨0, 0⟩ gs = run at hrun
    dsimp only
    split
    next hlong =>
      have hread := readV6_around_zeros hlen hrun.zeros (by omega)
      simpa using hread
    next =>
      have hread := readGroups_colonGroups gs 8 [] (by omega) (Or.inl rfl)
      rw [List.append_nil] at hread
      simp only [readV6, hread, if_pos hlen]

/-- **An address is complete**: an IPv6 address has eight groups. -/
def Address.IsComplete : Address → Prop
  | .v4 .. => True
  | .v6 groups => groups.length = 8

/-- **What is written for an address is read as that address.** -/
theorem Address.parse?_text {a : Address} (h : a.IsComplete) : Address.parse? a.text = some a := by
  cases a with
  | v4 a b c d =>
    have hread := readV4_dotted a b c d [] nofun
    rw [List.append_nil] at hread
    simp only [parse?, text, hread]
    rfl
  | v6 gs =>
    have hread := readV6_v6Text h
    have hv4 := readV4_of_isV6 (isV6_of_readV6 hread)
    simp only [parse?, text, hv4, hread]

/-- **Complete addresses that look the same are the same.** -/
theorem Address.text_injective {a b : Address} (ha : a.IsComplete) (hb : b.IsComplete)
    (h : a.text = b.text) : a = b :=
  Option.some.inj ((parse?_text ha).symm.trans ((congrArg parse? h).trans (parse?_text hb)))

/-! ### Bytes -/

/-- The bytes of groups, two for each. -/
def bytesOfGroups : List UInt16 → Bytes
  | [] => []
  | g :: gs => UInt8.ofNat (g.toNat / 256) :: UInt8.ofNat g.toNat :: bytesOfGroups gs

/-- **The bytes of an address.** -/
def Address.bytes : Address → Bytes
  | .v4 a b c d => [a, b, c, d]
  | .v6 groups => bytesOfGroups groups

theorem length_bytesOfGroups (gs : List UInt16) : (bytesOfGroups gs).length = 2 * gs.length := by
  induction gs with
  | nil => rfl
  | cons g gs ih =>
    rw [bytesOfGroups, List.length_cons, List.length_cons, ih, List.length_cons]
    omega

/-- Pairs of bytes are the bytes of their groups. -/
theorem bytesOfGroups_groupsOfBytes {bs : Bytes} (heven : bs.length % 2 = 0) :
    bytesOfGroups (groupsOfBytes bs) = bs := by
  induction bs using groupsOfBytes.induct with
  | case1 hi lo rest ih =>
    have hhi := hi.toNat_lt
    have hlo := lo.toNat_lt
    have hgroup : (UInt16.ofNat (hi.toNat * 256 + lo.toNat)).toNat = hi.toNat * 256 + lo.toNat := by
      rw [UInt16.toNat_ofNat', Nat.mod_eq_of_lt (by omega)]
    have hhi' : (hi.toNat * 256 + lo.toNat) / 256 = hi.toNat := by omega
    have hlo' : UInt8.ofNat (hi.toNat * 256 + lo.toNat) = lo := by
      rw [← UInt8.toNat_inj, UInt8.toNat_ofNat']
      omega
    have hrest : rest.length % 2 = 0 := by
      rw [List.length_cons, List.length_cons] at heven
      omega
    rw [groupsOfBytes, bytesOfGroups, ih hrest, hgroup, hhi', hlo', UInt8.ofNat_toNat]
  | case2 bs hno =>
    rcases bs with _ | ⟨b, _ | ⟨b', bs⟩⟩
    · rfl
    · cases heven
    · exact (hno b b' bs rfl).elim

/-- Groups are the groups of their bytes. -/
theorem groupsOfBytes_bytesOfGroups (gs : List UInt16) : groupsOfBytes (bytesOfGroups gs) = gs := by
  induction gs with
  | nil => rfl
  | cons g gs ih =>
    rw [bytesOfGroups, groupsOfBytes, ih, ofNat_bytes]

/-- An address of sixteen bytes is an IPv6 address. -/
theorem Address.ofBytes?_of_length {bs : Bytes} (h : bs.length = 16) :
    ofBytes? bs = some (.v6 (groupsOfBytes bs)) := by
  unfold ofBytes?
  split
  next => cases h
  next => exact if_pos h

/-- **Bytes are those of an address exactly if the address is found in them.** -/
theorem Address.ofBytes?_eq_some_iff {bs : Bytes} {a : Address} :
    ofBytes? bs = some a ↔ a.IsComplete ∧ a.bytes = bs := by
  constructor
  · intro h
    unfold ofBytes? at h
    split at h
    next =>
      obtain rfl := Option.some.inj h
      exact ⟨trivial, rfl⟩
    next =>
      split at h
      next hlen =>
        obtain rfl := Option.some.inj h
        have heven : bs.length % 2 = 0 := by omega
        have hbytes := bytesOfGroups_groupsOfBytes heven
        have hcount := length_bytesOfGroups (groupsOfBytes bs)
        rw [hbytes] at hcount
        exact ⟨(by omega : (groupsOfBytes bs).length = 8), hbytes⟩
      next => cases h
  · rintro ⟨hcomplete, rfl⟩
    cases a with
    | v4 a b c d => rfl
    | v6 gs =>
      have hlen : (Address.v6 gs).bytes.length = 16 := by
        rw [Address.bytes, length_bytesOfGroups, hcomplete]
      rw [ofBytes?_of_length hlen, Address.bytes, groupsOfBytes_bytesOfGroups]

/-- **Four or sixteen bytes are those of an address**, and no others. -/
theorem Address.isSome_ofBytes?_iff (bs : Bytes) :
    (ofBytes? bs).isSome = true ↔ bs.length = 4 ∨ bs.length = 16 := by
  rw [Option.isSome_iff_exists]
  constructor
  · rintro ⟨a, h⟩
    obtain ⟨hcomplete, rfl⟩ := ofBytes?_eq_some_iff.mp h
    cases a with
    | v4 a b c d => exact Or.inl rfl
    | v6 gs => exact Or.inr (by rw [Address.bytes, length_bytesOfGroups, hcomplete])
  · rintro (h | h)
    · obtain ⟨a, b, c, d, rfl⟩ := List.length_eq_four.mp h
      exact ⟨_, rfl⟩
    · exact ⟨_, ofBytes?_of_length h⟩

/-- An IPv4 address and the IPv6 address that maps it; of equal runs of zeros the first is left
out. -/
example : (Address.v4 127 0 0 1).text = "127.0.0.1" ∧
    (Address.v6 [0, 0, 0, 0, 0, 0xffff, 0x7f00, 1]).text = "::ffff:127.0.0.1" ∧
    (Address.v6 [1, 0, 0, 2, 0, 0, 3, 4]).text = "1::2:0:0:3:4" := by
  decide +kernel

end SocketlessTls.Net
