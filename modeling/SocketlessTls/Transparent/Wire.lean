import SocketlessTls.Bytes

/-!
# Numbers and vectors on the wire

Messages are made of numbers of fixed width and of vectors, byte strings with their length before
them. A `SocketlessTls.Transparent.Cut` takes such parts off the front of a byte string one by one.
-/

namespace SocketlessTls.Transparent

/-- Taking parts off the front of a byte string. -/
abbrev Cut := StateT Bytes Option

namespace Cut

/-- So many bytes. -/
def take (n : Nat) : Cut Bytes := fun bs =>
  if n ≤ bs.length then some (bs.take n, bs.drop n) else none

/-- All that is left. -/
def rest : Cut Bytes := fun bs => some (bs, [])

/-- Whether nothing is left. -/
def atEnd : Cut Bool := fun bs => some (bs.isEmpty, bs)

/-- A number in so many bytes. -/
def number (width : Nat) : Cut Nat := Bytes.toNat <$> take width

/-- One byte. -/
def byte : Cut UInt8 := UInt8.ofNat <$> number 1

/-- Two bytes. -/
def word : Cut UInt16 := UInt16.ofNat <$> number 2

/-- A byte string after its length in so many bytes. -/
def vector (width : Nat) : Cut Bytes := do take (← number width)

/-- Reads a whole byte string and nothing less. -/
def whole? {α : Type} (c : Cut α) (bs : Bytes) : Option α :=
  match c.run bs with
  | some (a, []) => some a
  | _ => none

/-- Reads one thing after the other up to the end, at most `fuel` of them. -/
def many {α : Type} (c : Cut α) : (fuel : Nat) → Cut (List α)
  | 0 => fun bs => if bs.isEmpty then some ([], bs) else none
  | fuel + 1 => do
    if ← atEnd then return []
    let a ← c
    return a :: (← many c fuel)

/-- Reads a whole byte string as a row of things, each at least one byte long. -/
def row? {α : Type} (c : Cut α) (bs : Bytes) : Option (List α) := whole? (many c bs.length) bs

end Cut

/-- A number in two bytes. -/
def wordBytes (n : UInt16) : Bytes := Bytes.ofNat 2 n.toNat

/-- A byte string after its length in so many bytes. -/
def vectorBytes (width : Nat) (bs : Bytes) : Bytes := Bytes.ofNat width bs.length ++ bs

/-- Words one after the other. -/
def wordsBytes (ns : List UInt16) : Bytes := ns.flatMap wordBytes

/-- So many bytes that stand for something secret or random. -/
def filler (n : Nat) (b : UInt8) : Bytes := List.replicate n b

end SocketlessTls.Transparent
