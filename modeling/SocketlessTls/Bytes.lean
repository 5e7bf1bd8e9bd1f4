/-!
# Byte strings

Everything that crosses a pipe, and every encoding in this library, is a list of bytes. This file
fixes the type and the few conversions that more than one format needs: big-endian numbers,
hexadecimal text, and the bytes of a text.

* `SocketlessTls.Bytes.ofString_length`, `ofString_injective` – a text and its bytes;
* `SocketlessTls.Bytes.ofNat_length` – a number written in `n` bytes takes `n` bytes;
* `SocketlessTls.Bytes.toHex_length` – hexadecimal text has two digits for each byte.
-/

namespace SocketlessTls

/-- A byte string. -/
abbrev Bytes := List UInt8

namespace Bytes

/-- The bytes of a text in UTF-8. -/
def ofString (s : String) : Bytes := s.toUTF8.toList

/-- Making a list of an array of bytes adds, to what has been listed so far, what is left of the
array. -/
theorem toList_loop (bs : ByteArray) (i : Nat) (r : Bytes) :
    ByteArray.toList.loop bs i r = r.reverse ++ bs.data.toList.drop i := by
  fun_induction ByteArray.toList.loop bs i r with
  | case1 i r hlt ih =>
    have hi : i < bs.data.toList.length := hlt
    have hget : bs.get! i = bs.data.toList[i] := getElem!_pos bs.data i hlt
    rw [ih, List.drop_eq_getElem_cons hi, hget]
    simp
  | case2 i r hge =>
    have hle : bs.data.toList.length ≤ i := Nat.le_of_not_lt hge
    rw [List.drop_eq_nil_of_le hle, List.append_nil]

theorem ofString_eq (s : String) : ofString s = s.toByteArray.data.toList := by
  rw [ofString, ByteArray.toList, toList_loop]
  rfl

/-- A text has as many bytes as it is long in UTF-8. -/
theorem ofString_length (s : String) : (ofString s).length = s.utf8ByteSize := by
  rw [ofString_eq]
  rfl

/-- Different texts have different bytes. -/
theorem ofString_injective {s t : String} (h : ofString s = ofString t) : s = t := by
  rw [ofString_eq, ofString_eq] at h
  exact String.toByteArray_inj.mp (ByteArray.ext (Array.toList_inj.mp h))

/-! ### Numbers -/

/-- The `width` low-order bytes of `n`, most significant first. -/
def ofNat : (width : Nat) → (n : Nat) → Bytes
  | 0, _ => []
  | width + 1, n => UInt8.ofNat (n >>> (8 * width)) :: ofNat width n

/-- The number that a byte string spells, most significant byte first. -/
def toNat (bs : Bytes) : Nat := bs.foldl (fun acc b => acc * 256 + b.toNat) 0

/-- A number written in `width` bytes takes `width` bytes. -/
@[simp] theorem ofNat_length (width n : Nat) : (ofNat width n).length = width := by
  induction width with
  | zero => rfl
  | succ width ih => simp [ofNat, ih]

/-- The fewest bytes that spell `n`; none for zero. -/
def ofNatMinimal (n : Nat) : Bytes :=
  if _h : n = 0 then [] else ofNatMinimal (n / 256) ++ [UInt8.ofNat n]
termination_by n
decreasing_by omega

/-! ### Hexadecimal text -/

/-- The lower-case hexadecimal digit of a number below sixteen. -/
def hexDigit (n : Nat) : Char := if n < 10 then Char.ofNat (48 + n) else Char.ofNat (87 + n)

/-- The value of a hexadecimal digit of either case. -/
def hexValue? (c : Char) : Option Nat :=
  if '0' ≤ c ∧ c ≤ '9' then some (c.toNat - 48)
  else if 'a' ≤ c ∧ c ≤ 'f' then some (c.toNat - 87)
  else if 'A' ≤ c ∧ c ≤ 'F' then some (c.toNat - 55)
  else none

/-- Two hexadecimal digits for each byte. -/
def toHexChars (bs : Bytes) : List Char :=
  bs.flatMap fun b => [hexDigit (b.toNat / 16), hexDigit (b.toNat % 16)]

/-- Hexadecimal text has two digits for each byte. -/
@[simp] theorem toHex_length (bs : Bytes) : bs.toHexChars.length = 2 * bs.length := by
  induction bs with
  | nil => rfl
  | cons b bs ih => simp [toHexChars] at ih ⊢; omega

/-- The lower-case hexadecimal text of a byte string. -/
def toHex (bs : Bytes) : String := String.ofList bs.toHexChars

/-- Reads pairs of hexadecimal digits. -/
def ofHexChars? : List Char → Option Bytes
  | [] => some []
  | [_] => none
  | a :: b :: rest => do
    let hi ← hexValue? a
    let lo ← hexValue? b
    return UInt8.ofNat (16 * hi + lo) :: (← ofHexChars? rest)

/-- Reads the hexadecimal text of a byte string. -/
def ofHex? (s : String) : Option Bytes := ofHexChars? s.toList

/-- The digits of `n` in base sixteen, without leading zeros. -/
def hexOfNat (n : Nat) : String := String.ofList (Nat.toDigits 16 n)

end Bytes

end SocketlessTls
