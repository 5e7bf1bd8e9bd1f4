import SocketlessTls.Bytes

/-!
# Reading UTF-8

Two readers of byte strings as text. The strict one, `SocketlessTls.Text.utf8?`, refuses a byte
string that is not well formed. The lenient one, `SocketlessTls.Text.utf8Lossy`, replaces each
maximal ill-formed part by U+FFFD: a part ends at the first byte that cannot continue it, so a
truncated sequence is one replacement and a stray continuation byte is another.
-/

namespace SocketlessTls.Text

/-- One step of reading: a character with the number of its bytes, or the length of an ill-formed
part. -/
inductive Utf8Step where
  | scalar (c : Char) (width : Nat)
  | illFormed (width : Nat)
  deriving Repr, DecidableEq

/-- Whether a byte lies in a range. -/
def byteIn (lo hi b : UInt8) : Bool := lo ≤ b && b ≤ hi

/-- The bytes that may follow the first byte of a longer sequence: bounds of the second byte, and
the number of bytes in all. -/
def utf8Lead? (b : UInt8) : Option (UInt8 × UInt8 × Nat) :=
  if byteIn 0xC2 0xDF b then some (0x80, 0xBF, 2)
  else if b == 0xE0 then some (0xA0, 0xBF, 3)
  else if b == 0xED then some (0x80, 0x9F, 3)
  else if byteIn 0xE1 0xEF b then some (0x80, 0xBF, 3)
  else if b == 0xF0 then some (0x90, 0xBF, 4)
  else if byteIn 0xF1 0xF3 b then some (0x80, 0xBF, 4)
  else if b == 0xF4 then some (0x80, 0x8F, 4)
  else none

/-- The six payload bits of a continuation byte. -/
def continuationBits (b : UInt8) : Nat := b.toNat % 64

/-- The step at the front of a byte string. -/
def utf8Step (b : UInt8) (rest : Bytes) : Utf8Step :=
  if b < 0x80 then .scalar (Char.ofNat b.toNat) 1
  else match utf8Lead? b with
    | none => .illFormed 1
    | some (lo, hi, width) =>
      match rest with
      | [] => .illFormed 1
      | second :: rest =>
        if !byteIn lo hi second then .illFormed 1
        else if width = 2 then
          .scalar (Char.ofNat (b.toNat % 32 * 64 + continuationBits second)) 2
        else match rest with
          | [] => .illFormed 2
          | third :: rest =>
            if !byteIn 0x80 0xBF third then .illFormed 2
            else if width = 3 then
              .scalar (Char.ofNat ((b.toNat % 16 * 64 + continuationBits second) * 64
                + continuationBits third)) 3
            else match rest with
              | [] => .illFormed 3
              | fourth :: _ =>
                if !byteIn 0x80 0xBF fourth then .illFormed 3
                else .scalar (Char.ofNat (((b.toNat % 8 * 64 + continuationBits second) * 64
                  + continuationBits third) * 64 + continuationBits fourth)) 4

/-- The number of bytes that a step takes. -/
def Utf8Step.width : Utf8Step → Nat
  | .scalar _ w => w
  | .illFormed w => w

/-- The steps of a whole byte string, each byte in exactly one of them. -/
def utf8Steps : Bytes → List Utf8Step
  | [] => []
  | b :: rest =>
    let step := utf8Step b rest
    step :: utf8Steps (rest.drop (step.width - 1))
termination_by bs => bs.length
decreasing_by simp only [List.length_cons, List.length_drop]; omega

/-- The text of a well-formed byte string. -/
def utf8? (bs : Bytes) : Option String :=
  (utf8Steps bs).foldr (fun step acc =>
    match step, acc with
    | .scalar c _, some cs => some (c :: cs)
    | _, _ => none) (some []) |>.map String.ofList

/-- The text of any byte string, with U+FFFD for each ill-formed part. -/
def utf8Lossy (bs : Bytes) : String :=
  String.ofList ((utf8Steps bs).map fun
    | .scalar c _ => c
    | .illFormed _ => Char.ofNat 0xFFFD)

end SocketlessTls.Text
