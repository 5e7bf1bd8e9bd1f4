import SocketlessTls.Bytes

/-!
# Tag, length, value

The encoding under certificates, keys, sessions and status responses: an element is a tag, a
length and so many bytes of content, and the content of a constructed element is again a row of
elements. Reading takes every definite length, in short or long form; writing uses the shortest.

* `SocketlessTls.Asn1.Element` – one element, with the bytes it was read from;
* `SocketlessTls.Asn1.readElement?` – the element at the front of a byte string, and the rest;
* `SocketlessTls.Asn1.elements?` – a byte string that is a row of elements and nothing else;
* `SocketlessTls.Asn1.Fields` – taking the elements of a row one by one, the optional ones only
  when they carry the tag looked for.
-/

namespace SocketlessTls.Asn1

/-- The class and number of a tag. -/
inductive Tag where
  | universal (number : Nat)
  | application (number : Nat)
  | context (number : Nat)
  | priv (number : Nat)
  deriving Repr, DecidableEq

namespace Tag

def boolean : Tag := .universal 1
def integer : Tag := .universal 2
def bitString : Tag := .universal 3
def octetString : Tag := .universal 4
def objectId : Tag := .universal 6
def enumerated : Tag := .universal 10
def sequence : Tag := .universal 16
def set : Tag := .universal 17
def utcTime : Tag := .universal 23
def generalizedTime : Tag := .universal 24

/-- The tag of the given class bits and number. -/
def ofClass (cls number : Nat) : Tag :=
  match cls with
  | 0 => .universal number
  | 1 => .application number
  | 2 => .context number
  | _ => .priv number

/-- The class bits of a tag. -/
def classBits : Tag → Nat
  | .universal _ => 0
  | .application _ => 1
  | .context _ => 2
  | .priv _ => 3

/-- The number of a tag. -/
def number : Tag → Nat
  | .universal n => n
  | .application n => n
  | .context n => n
  | .priv n => n

end Tag

/-- One element: its tag, whether its content is again a row of elements, the content, and all the
bytes it was read from. -/
structure Element where
  tag : Tag
  constructed : Bool
  content : Bytes
  raw : Bytes
  deriving Repr, DecidableEq

/-! ### Reading -/

/-- The rest of a tag number of thirty-one or more: seven bits a byte, the last without its top
bit. -/
def readTagNumber? (acc : Nat) : Bytes → Option (Nat × Bytes)
  | [] => none
  | b :: rest =>
    if acc ≥ 1 <<< 24 then none
    else if b < 0x80 then some (acc * 128 + b.toNat, rest)
    else readTagNumber? (acc * 128 + b.toNat % 128) rest

/-- A definite length. -/
def readLength? : Bytes → Option (Nat × Bytes)
  | [] => none
  | b :: rest =>
    if b < 0x80 then some (b.toNat, rest)
    else
      let n := b.toNat % 128
      if n = 0 || rest.length < n then none
      else
        let digits := (rest.take n).dropWhile (· == 0)
        if digits.length > 8 then none else some (Bytes.toNat digits, rest.drop n)

/-- The element at the front of a byte string, and the bytes after it. -/
def readElement? (bs : Bytes) : Option (Element × Bytes) := do
  match bs with
  | [] => none
  | b :: rest =>
    let (number, rest) ←
      if b.toNat % 32 = 31 then readTagNumber? 0 rest else some (b.toNat % 32, rest)
    let (length, rest) ← readLength? rest
    if rest.length < length then none
    else
      let after := rest.drop length
      return (⟨Tag.ofClass (b.toNat / 64) number, b.toNat / 32 % 2 == 1, rest.take length,
        bs.take (bs.length - after.length)⟩, after)

/-- The elements of a byte string that is a row of at most `fuel` elements. -/
def readElements? : (fuel : Nat) → Bytes → Option (List Element)
  | _, [] => some []
  | 0, _ :: _ => none
  | fuel + 1, bs => do
    let (e, rest) ← readElement? bs
    return e :: (← readElements? fuel rest)

/-- The elements of a byte string that is a row of elements and nothing else; each takes at least
two bytes. -/
def elements? (bs : Bytes) : Option (List Element) := readElements? bs.length bs

/-- The members of a constructed element with the given tag. -/
def Element.members? (tag : Tag) (e : Element) : Option (List Element) :=
  if e.tag = tag ∧ e.constructed then elements? e.content else none

/-- The single member of a constructed element with the given tag. -/
def Element.member? (tag : Tag) (e : Element) : Option Element :=
  match e.members? tag with
  | some [inner] => some inner
  | _ => none

/-- The content of a primitive element with the given tag. -/
def Element.primitive? (tag : Tag) (e : Element) : Option Bytes :=
  if e.tag = tag ∧ ¬ e.constructed then some e.content else none

/-! ### Numbers, objects and strings -/

/-- Whether the content of an integer is in its shortest form. -/
def isMinimalInteger : Bytes → Bool
  | [] => false
  | [_] => true
  | a :: b :: _ => !(a == 0 && b < 0x80) && !(a == 0xFF && b ≥ 0x80)

/-- The number that the content of an integer spells in two's complement. -/
def integerOfContent? (bs : Bytes) : Option Int :=
  if isMinimalInteger bs then
    let n := Bytes.toNat bs
    if (bs.headD 0) < 0x80 then some n else some (n - (1 <<< (8 * bs.length) : Nat))
  else none

/-- The number held by an element with the given integer tag. -/
def Element.integer? (tag : Tag) (e : Element) : Option Int :=
  e.primitive? tag >>= integerOfContent?

/-- The arcs of an object identifier's content after the first two, in base 128. -/
def arcsOfContent? (acc : Nat) (fresh : Bool) : Bytes → Option (List Nat)
  | [] => if fresh then some [] else none
  | b :: rest =>
    if fresh && b == 0x80 then none
    else if b < 0x80 then do
      return (acc * 128 + b.toNat) :: (← arcsOfContent? 0 true rest)
    else arcsOfContent? (acc * 128 + b.toNat % 128) false rest

/-- The arcs of an object identifier. -/
def objectOfContent? (bs : Bytes) : Option (List Nat) := do
  match ← arcsOfContent? 0 true bs with
  | [] => none
  | a :: arcs => return (min 2 (a / 40)) :: (a - 40 * min 2 (a / 40)) :: arcs

/-- The object identifier held by an element. -/
def Element.object? (e : Element) : Option (List Nat) :=
  e.primitive? .objectId >>= objectOfContent?

/-- The bits of a bit string's content: its bytes after the first, which counts the unused bits at
the end; those are cleared. -/
def bitsOfContent? : Bytes → Option Bytes
  | [] => none
  | unused :: bits =>
    if unused > 7 then none
    else match bits.reverse with
      | [] => some []
      | last :: front =>
        some ((((last >>> unused) <<< unused) :: front).reverse)

/-- The bits held by an element. -/
def Element.bits? (e : Element) : Option Bytes := e.primitive? .bitString >>= bitsOfContent?

/-! ### Taking the members of a row -/

/-- A reader that takes elements from the front of a row. -/
abbrev Fields (α : Type) := StateT (List Element) Option α

namespace Fields

/-- The next element, whatever it is. -/
def next : Fields Element := fun
  | [] => none
  | e :: rest => some (e, rest)

/-- The next element if it carries the given tag. -/
def optional (tag : Tag) : Fields (Option Element) := fun
  | [] => some (none, [])
  | e :: rest => if e.tag = tag then some (some e, rest) else some (none, e :: rest)

/-- A step that may fail without taking anything. -/
def lift {α : Type} (x : Option α) : Fields α := fun row => x.map (·, row)

/-- Runs a reader that has to take the whole row. -/
def run? {α : Type} (fields : Fields α) (row : List Element) : Option α :=
  match fields row with
  | some (a, []) => some a
  | _ => none

end Fields

/-! ### Writing -/

/-- The shortest form of a length. -/
def encodeLength (n : Nat) : Bytes :=
  if n < 128 then [UInt8.ofNat n]
  else
    let digits := Bytes.ofNatMinimal n
    UInt8.ofNat (128 + digits.length) :: digits

/-- An element with a tag number below thirty-one. -/
def encodeElement (tag : Tag) (constructed : Bool) (content : Bytes) : Bytes :=
  UInt8.ofNat (tag.classBits * 64 + (if constructed then 32 else 0) + tag.number)
    :: encodeLength content.length ++ content

/-- The shortest two's-complement form of a number from -128 · 256ᵏ on, for `width` at least the
number of bytes it needs. -/
def minimalContent (width : Nat) (n : Int) : Bytes :=
  let full := Bytes.ofNat width (n % (1 <<< (8 * width) : Nat)).toNat
  shorten full
where
  /-- Drops leading bytes that only repeat the sign. -/
  shorten : Bytes → Bytes
    | [] => []
    | [b] => [b]
    | a :: b :: rest =>
      if (a == 0 && b < 0x80) || (a == 0xFF && b ≥ 0x80) then shorten (b :: rest)
      else a :: b :: rest

/-- An integer that fits in nine bytes. -/
def encodeInteger (n : Int) : Bytes :=
  encodeElement .integer false (minimalContent 9 n)

/-- An octet string. -/
def encodeOctets (bs : Bytes) : Bytes := encodeElement .octetString false bs

/-- A sequence of encoded members. -/
def encodeSequence (members : Bytes) : Bytes := encodeElement .sequence true members

/-- A member wrapped in an explicit context tag. -/
def encodeExplicit (number : Nat) (inner : Bytes) : Bytes :=
  encodeElement (.context number) true inner

end SocketlessTls.Asn1
