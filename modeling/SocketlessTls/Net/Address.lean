import SocketlessTls.Bytes

/-!
# Internet addresses as text

An address is four bytes or eight 16-bit groups. This file reads the two textual forms strictly
and writes them back.

Reading: an IPv4 address is four decimal numbers up to 255, of one to three digits and without a
leading zero, separated by dots. An IPv6 address is eight groups of one to four hexadecimal digits
separated by colons; one `::` may stand for a run of one or more zero groups, and the last two
groups may be written as an IPv4 address. Nothing may stand before or after, neither a scope nor
brackets.

Writing: an IPv4 address in dotted form; an IPv6 address that maps an IPv4 one as `::ffff:` and
the dotted form; any other with its longest run of at least two zero groups, the first of equal
runs, as `::`.
-/

namespace SocketlessTls.Net

/-- An internet address. -/
inductive Address where
  | v4 (a b c d : UInt8)
  | v6 (groups : List UInt16)
  deriving Repr, DecidableEq

/-! ### Reading -/

/-- What a reader leaves: a value and the characters after it. -/
abbrev Reader (α : Type) := List Char → Option (α × List Char)

/-- The value of a digit in the given base. -/
def digit? (base : Nat) (c : Char) : Option Nat :=
  match Bytes.hexValue? c with
  | some v => if v < base then some v else none
  | none => none

/-- The characters of a number in the given base, and the rest. -/
def digitRun (base : Nat) (cs : List Char) : List Char × List Char :=
  cs.span fun c => (digit? base c).isSome

/-- The number that a run of digits spells. -/
def digitsValue (base : Nat) (cs : List Char) : Nat :=
  cs.foldl (fun acc c => acc * base + (digit? base c).getD 0) 0

/-- A decimal number up to 255, of at most three digits, without a leading zero. -/
def readOctet : Reader UInt8 := fun cs =>
  let (ds, rest) := digitRun 10 cs
  if ds.isEmpty || ds.length > 3 || (ds.length > 1 && ds.head? == some '0')
      || digitsValue 10 ds > 255 then none
  else some (UInt8.ofNat (digitsValue 10 ds), rest)

/-- A group of one to four hexadecimal digits. -/
def readGroup : Reader UInt16 := fun cs =>
  let (ds, rest) := digitRun 16 cs
  if ds.isEmpty || ds.length > 4 then none
  else some (UInt16.ofNat (digitsValue 16 ds), rest)

/-- One given character. -/
def readChar (expected : Char) : Reader Unit
  | c :: rest => if c = expected then some ((), rest) else none
  | [] => none

/-- Four octets separated by dots. -/
def readV4 : Reader (UInt8 × UInt8 × UInt8 × UInt8) := fun cs => do
  let (a, cs) ← readOctet cs
  let ((), cs) ← readChar '.' cs
  let (b, cs) ← readOctet cs
  let ((), cs) ← readChar '.' cs
  let (c, cs) ← readOctet cs
  let ((), cs) ← readChar '.' cs
  let (d, cs) ← readOctet cs
  return ((a, b, c, d), cs)

/-- A reader that wants a colon in front unless it is the first of its row. -/
def afterColon {α : Type} (first : Bool) (read : Reader α) : Reader α := fun cs =>
  if first then read cs
  else do
    let ((), cs) ← readChar ':' cs
    read cs

/-- The two groups of an embedded IPv4 address. -/
def groupsOfV4 (a b c d : UInt8) : List UInt16 :=
  [UInt16.ofNat (a.toNat * 256 + b.toNat), UInt16.ofNat (c.toNat * 256 + d.toNat)]

/-- As many groups as there are, up to a limit. An IPv4 address may take the place of two of them
and ends the row; the flag says whether one did. -/
def readGroups (limit : Nat) (first : Bool) (cs : List Char) : List UInt16 × Bool × List Char :=
  match limit with
  | 0 => ([], false, cs)
  | limit + 1 =>
    match (if limit = 0 then none else afterColon first readV4 cs) with
    | some ((a, b, c, d), rest) => (groupsOfV4 a b c d, true, rest)
    | none =>
      match afterColon first readGroup cs with
      | none => ([], false, cs)
      | some (g, rest) =>
        let (gs, dotted, rest) := readGroups limit false rest
        (g :: gs, dotted, rest)

/-- The groups of an IPv6 address. -/
def readV6 : Reader (List UInt16) := fun cs =>
  let (head, dotted, cs) := readGroups 8 true cs
  if head.length = 8 then some (head, cs)
  else if dotted then none
  else do
    let ((), cs) ← readChar ':' cs
    let ((), cs) ← readChar ':' cs
    let (tail, _, cs) := readGroups (7 - head.length) true cs
    return (head ++ List.replicate (8 - head.length - tail.length) 0 ++ tail, cs)

/-- The address that a text spells, if it is exactly one address. -/
def Address.parse? (s : String) : Option Address :=
  match readV4 s.toList with
  | some ((a, b, c, d), rest) => if rest.isEmpty then some (.v4 a b c d) else none
  | none =>
    match readV6 s.toList with
    | some (groups, []) => some (.v6 groups)
    | _ => none

/-! ### Writing -/

/-- Four numbers separated by dots. -/
def dotted (a b c d : UInt8) : String :=
  ".".intercalate ([a, b, c, d].map fun x => toString x.toNat)

/-- A run of zero groups: where it starts and how long it is. -/
structure ZeroRun where
  start : Nat
  length : Nat
  deriving Repr, DecidableEq

/-- The longest run of zeros in a row of groups that starts at `index`, the first of equal ones;
`current` is the run that the row continues. -/
def longestZeroRun (index : Nat) (current best : ZeroRun) : List UInt16 → ZeroRun
  | [] => best
  | g :: gs =>
    if g = 0 then
      let current :=
        if current.length = 0 then ⟨index, 1⟩ else ⟨current.start, current.length + 1⟩
      longestZeroRun (index + 1) current (if current.length > best.length then current else best) gs
    else
      longestZeroRun (index + 1) ⟨0, 0⟩ best gs

/-- Groups in hexadecimal, separated by colons. -/
def colonGroups (gs : List UInt16) : String :=
  ":".intercalate (gs.map fun g => Bytes.hexOfNat g.toNat)

/-- The text of an IPv6 address. -/
def v6Text (groups : List UInt16) : String :=
  match groups with
  | [0, 0, 0, 0, 0, 0xffff, hi, lo] =>
    "::ffff:" ++ dotted (UInt8.ofNat (hi.toNat / 256)) (UInt8.ofNat hi.toNat)
      (UInt8.ofNat (lo.toNat / 256)) (UInt8.ofNat lo.toNat)
  | groups =>
    let run := longestZeroRun 0 ⟨0, 0⟩ ⟨0, 0⟩ groups
    if run.length > 1 then
      let rest := groups.drop (run.start + run.length)
      colonGroups (groups.take run.start) ++ "::" ++ colonGroups rest
    else
      colonGroups groups

/-- The text of an address. -/
def Address.text : Address → String
  | .v4 a b c d => dotted a b c d
  | .v6 groups => v6Text groups

/-- Pairs of bytes as 16-bit groups. -/
def groupsOfBytes : Bytes → List UInt16
  | hi :: lo :: rest => UInt16.ofNat (hi.toNat * 256 + lo.toNat) :: groupsOfBytes rest
  | _ => []

/-- The address that four or sixteen bytes hold. -/
def Address.ofBytes? (bs : Bytes) : Option Address :=
  match bs with
  | [a, b, c, d] => some (.v4 a b c d)
  | bs => if bs.length = 16 then some (.v6 (groupsOfBytes bs)) else none

end SocketlessTls.Net
