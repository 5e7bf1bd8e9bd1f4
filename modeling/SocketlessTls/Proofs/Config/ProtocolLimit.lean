import Mathlib.Algebra.Ring.Nat
import SocketlessTls.Proofs.Config.ProtocolList

/-!
# How many protocols fit

On the wire a list of protocols stands behind its length in two bytes, and both stand in an
extension, behind their length in two bytes. So there is a limit on the list and not only on each
protocol, and nothing looks at it when the list is set: every protocol is checked on its own, and
their number is not.

**A list that has been accepted is sure to fit as long as it has at most 255 protocols**
(`SocketlessTls.Alpn.accepted_fit_iff_few`). Of 256 protocols it may be too long, and of 32767 it is
in any case. A list that is too long stays unnoticed until there is a handshake.

* `SocketlessTls.Alpn.Fits` – the lists that there is room for;
* `SocketlessTls.Alpn.fits_iff` – the same in terms of the lengths of the protocols;
* `SocketlessTls.Alpn.length_encode_bounds` – what the checks say about the length of a list.
-/

namespace SocketlessTls.Alpn

/-- **There is room for a list of protocols in an extension**: its length can be written in two
bytes, and so can its length with these two bytes. -/
def Fits (protocols : List String) : Prop :=
  (encode protocols).length < 2 ^ 16 ∧ 2 + (encode protocols).length < 2 ^ 16

/-! ### The length of a list -/

/-- Each protocol takes as many bytes as it has, and one more. -/
theorem length_encode (protocols : List String) :
    (encode protocols).length = (protocols.map fun p => 1 + p.utf8ByteSize).sum := by
  induction protocols with
  | nil => rfl
  | cons p protocols ih =>
    have hitem : encode (p :: protocols) =
        UInt8.ofNat (Bytes.ofString p).length :: (Bytes.ofString p ++ encode protocols) := by
      rw [encode, List.map_cons, encodeItems, List.flatMap_cons, List.cons_append]
      rfl
    rw [hitem, List.length_cons, List.length_append, Bytes.ofString_length, ih, List.map_cons,
      List.sum_cons]
    omega

/-- The second length is the greater one, and it is the one that counts. -/
theorem fits_iff (protocols : List String) :
    Fits protocols ↔ (protocols.map fun p => 1 + p.utf8ByteSize).sum ≤ 65533 := by
  rw [Fits, length_encode]
  omega

/-- The same protocol so many times. -/
theorem length_encode_replicate (n : Nat) (p : String) :
    (encode (List.replicate n p)).length = n * (1 + p.utf8ByteSize) := by
  rw [length_encode, List.map_replicate, List.sum_replicate_nat]

/-- **Of an accepted list each protocol takes two to 256 bytes**, by induction on the list. -/
theorem length_encode_bounds {protocols : List String} (h : check protocols = none) :
    2 * protocols.length ≤ (encode protocols).length ∧
      (encode protocols).length ≤ 256 * protocols.length := by
  have hsizes := ((check_eq_none_iff protocols).mp h).2
  clear h
  rw [length_encode]
  induction protocols with
  | nil => exact ⟨Nat.le_refl 0, Nat.le_refl 0⟩
  | cons p protocols ih =>
    obtain ⟨⟨hmin, hmax⟩, hrest⟩ := List.forall_mem_cons.mp hsizes
    obtain ⟨hlow, hhigh⟩ := ih hrest
    rw [List.map_cons, List.sum_cons, List.length_cons]
    omega

/-! ### The number of protocols -/

/-- A protocol of the greatest length. -/
def longest : String := String.ofList (List.replicate 255 'a')

theorem longest_size : longest.utf8ByteSize = 255 := by decide +kernel

/-- The same protocol any number of times is accepted if it is itself, but for no times. -/
theorem check_replicate {n : Nat} (hn : n ≠ 0) {p : String} (hp : isValid p = true) :
    check (List.replicate n p) = none := by
  refine (check_eq_none_iff _).mpr ⟨?_, fun q hq => ?_⟩
  · rwa [Ne, List.replicate_eq_nil_iff]
  · rw [List.eq_of_mem_replicate hq]
    exact (isValid_iff p).mp hp

/-- Up to 255 accepted protocols fit, even if they are all as long as they may be. -/
theorem fits_of_few {protocols : List String} (h : check protocols = none)
    (hfew : protocols.length ≤ 255) : Fits protocols := by
  have hmax := (length_encode_bounds h).2
  constructor <;> omega

/-- From 256 protocols on, there are lists that are accepted and do not fit: 256 protocols of the
greatest length are 65536 bytes. -/
theorem exists_too_long {n : Nat} (hmany : 255 < n) :
    ∃ protocols, protocols.length = n ∧ check protocols = none ∧ ¬Fits protocols := by
  refine ⟨List.replicate n longest, List.length_replicate,
    check_replicate (Nat.ne_zero_of_lt hmany) (by decide +kernel), fun hfits => ?_⟩
  have hlength := hfits.1
  rw [length_encode_replicate, longest_size] at hlength
  omega

/-- There are accepted lists that fit of one protocol up to 32766, and of no other number: even the
shortest protocol takes two bytes. -/
theorem exists_fitting_iff (n : Nat) :
    (∃ protocols, protocols.length = n ∧ check protocols = none ∧ Fits protocols) ↔
      1 ≤ n ∧ n ≤ 32766 := by
  constructor
  · rintro ⟨protocols, hlength, h, -, hfits⟩
    have hpos := List.length_pos_iff.mpr ((check_eq_none_iff protocols).mp h).1
    have hmin := (length_encode_bounds h).1
    omega
  · rintro ⟨hpos, hn⟩
    have hsize : ("a").utf8ByteSize = 1 := by decide
    refine ⟨List.replicate n "a", List.length_replicate,
      check_replicate (Nat.ne_zero_of_lt hpos) (by decide), ?_⟩
    rw [Fits, length_encode_replicate, hsize]
    omega

/-! ### What has been set -/

/-- A list of protocols can be set exactly if it is accepted. -/
theorem run_alpn_ok_iff (sc : Screening) (c : Config) (protocols : List String) :
    ((Setting.alpn protocols).run sc c).1 = .ok () ↔ check protocols = none := by
  rw [Setting.run_eq, Setting.apply]
  rcases check protocols with _ | e
  · exact iff_of_true rfl rfl
  · refine iff_of_false (fun hrun => ?_) (Option.some_ne_none e)
    cases hrun

/-- **Which of the lists that can be set can be offered.** One that has been set fits exactly if the
lengths of its protocols, with one more for each, come to at most 65533. Nothing makes sure of that
but their number: up to 255 protocols fit because they have been accepted, and for every greater
number some lists can be set and do not fit. Beyond 32766 protocols, none fits that can be set. -/
theorem accepted_fit_iff_few (sc : Screening) (c : Config) :
    (∀ protocols, ((Setting.alpn protocols).run sc c).1 = .ok () →
      ((Setting.alpn protocols).run sc c).2 = { c with alpn := protocols } ∧
      (Fits protocols ↔ (protocols.map fun p => 1 + p.utf8ByteSize).sum ≤ 65533)) ∧
    (∀ n, (∀ protocols, protocols.length = n →
      ((Setting.alpn protocols).run sc c).1 = .ok () → Fits protocols) ↔ n ≤ 255) ∧
    ∀ n, (∃ protocols, protocols.length = n ∧
      ((Setting.alpn protocols).run sc c).1 = .ok () ∧ Fits protocols) ↔ 1 ≤ n ∧ n ≤ 32766 := by
  refine ⟨fun protocols h => ⟨((run_alpn_iff sc c protocols).mp h).2, fits_iff protocols⟩, ?_, ?_⟩
  · simp only [run_alpn_ok_iff]
    refine fun n => ⟨fun hall => ?_, fun hn protocols hlength h => fits_of_few h (hlength ▸ hn)⟩
    refine Nat.le_of_not_lt fun hmany => ?_
    obtain ⟨protocols, hlength, h, hlong⟩ := exists_too_long hmany
    exact hlong (hall protocols hlength h)
  · simp only [run_alpn_ok_iff]
    exact exists_fitting_iff

/-- A list that can be set and is too long to be offered. -/
theorem long_list_accepted :
    ((Setting.alpn (List.replicate 256 longest)).run Policy.screening .initial).1 = .ok () ∧
      ¬Fits (List.replicate 256 longest) := by
  have hset : ((Setting.alpn (List.replicate 256 longest)).run Policy.screening .initial).1 =
      .ok () := (run_alpn_ok_iff _ _ _).mpr (check_replicate (by decide) (by decide +kernel))
  refine ⟨hset, fun hfits => ?_⟩
  have hsum := ((accepted_fit_iff_few Policy.screening .initial).1 _ hset).2.mp hfits
  rw [List.map_replicate, List.sum_replicate_nat, longest_size] at hsum
  omega

end SocketlessTls.Alpn
