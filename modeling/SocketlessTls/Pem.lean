import SocketlessTls.Bytes

/-!
# Armoured text

A block of armoured text is a line `-----BEGIN label-----`, base 64 on the following lines, and a
line `-----END label-----` with the same label. Text outside blocks is ignored, and so is white
space at the end of a line. A block that starts and does not end, or whose middle is not base 64,
spoils everything after it. The text may be any bytes; each stands for one character.

* `SocketlessTls.Pem.firstBlock?` – the contents of the first block with one of the given labels.
-/

namespace SocketlessTls.Pem

/-! ### Base 64 -/

/-- The value of a base-64 digit. -/
def base64Value? (c : Char) : Option Nat :=
  if 'A' ≤ c ∧ c ≤ 'Z' then some (c.toNat - 65)
  else if 'a' ≤ c ∧ c ≤ 'z' then some (c.toNat - 71)
  else if '0' ≤ c ∧ c ≤ '9' then some (c.toNat + 4)
  else if c = '+' then some 62
  else if c = '/' then some 63
  else none

/-- The bytes of base-64 text in groups of four digits, the last one padded. -/
def decode64? : List Char → Option Bytes
  | [] => some []
  | [a, b, '=', '='] => do
    let n := (← base64Value? a) * 64 + (← base64Value? b)
    return [UInt8.ofNat (n / 16)]
  | [a, b, c, '='] => do
    let n := ((← base64Value? a) * 64 + (← base64Value? b)) * 64 + (← base64Value? c)
    return Bytes.ofNat 2 (n / 4)
  | a :: b :: c :: d :: rest => do
    let n := (((← base64Value? a) * 64 + (← base64Value? b)) * 64 + (← base64Value? c)) * 64
      + (← base64Value? d)
    return Bytes.ofNat 3 n ++ (← decode64? rest)
  | _ => none

/-! ### Lines and blocks -/

/-- The lines of a text, without the white space at their ends. -/
def trimmedLines (text : Bytes) : List (List Char) :=
  (splitLines (text.map fun b => Char.ofNat b.toNat)).map fun line =>
    (line.reverse.dropWhile fun c => c.toNat ≤ 32).reverse
where
  /-- Cuts at every line feed. -/
  splitLines : List Char → List (List Char)
    | [] => [[]]
    | '\n' :: rest => [] :: splitLines rest
    | c :: rest =>
      match splitLines rest with
      | [] => [[c]]
      | line :: lines => (c :: line) :: lines

/-- The label of a line of the given kind, `BEGIN` or `END`. -/
def lineLabel? (kind : String) (line : List Char) : Option (List Char) :=
  let opening := ("-----" ++ kind ++ " ").toList
  let closing := "-----".toList
  if opening.isPrefixOf line && closing.isSuffixOf line
      && line.length ≥ opening.length + closing.length then
    some ((line.drop opening.length).take (line.length - opening.length - closing.length))
  else none

/-- One block: its label and its contents. -/
structure Block where
  label : String
  contents : Bytes
  deriving Repr, DecidableEq

/-- The middle of a block up to its closing line, and the lines after it. -/
def blockBody? (label : List Char) : List (List Char) → Option (List Char × List (List Char))
  | [] => none
  | line :: lines =>
    match lineLabel? "END" line with
    | some closing => if closing = label then some ([], lines) else none
    | none => do
      let (body, lines) ← blockBody? label lines
      return (line ++ body, lines)

/-- The body of a block ends before the lines do. -/
theorem blockBody?_length {label : List Char} {lines rest : List (List Char)} {body : List Char}
    (h : blockBody? label lines = some (body, rest)) : rest.length < lines.length := by
  induction lines generalizing body with
  | nil => simp [blockBody?] at h
  | cons line lines ih =>
    simp only [blockBody?] at h
    split at h
    · split at h <;> simp_all
    · cases hb : blockBody? label lines with
      | none => simp [hb] at h
      | some p =>
        obtain ⟨b, r⟩ := p
        simp only [hb, Option.bind_eq_bind, Option.bind_some, Option.some.injEq, Prod.mk.injEq,
          pure] at h
        have := ih (hb.trans (by rw [h.2]))
        simp only [List.length_cons]
        omega

/-- The blocks among some lines, up to the first that is spoilt; `none` in its place. -/
def blocks (lines : List (List Char)) : List (Option Block) :=
  match lines with
  | [] => []
  | line :: lines =>
    match lineLabel? "BEGIN" line with
    | none => blocks lines
    | some label =>
      match _h : blockBody? label lines with
      | none => [none]
      | some (body, rest) =>
        match decode64? body with
        | none => [none]
        | some contents => some ⟨String.ofList label, contents⟩ :: blocks rest
termination_by lines.length
decreasing_by
  · simp
  · have := blockBody?_length _h
    simp only [List.length_cons]
    omega

/-- The first block with one of the given labels, unless a spoilt block comes before it. -/
def firstBlock? (labels : List String) (text : Bytes) : Option Block :=
  go (blocks (trimmedLines text))
where
  /-- Looks along the blocks. -/
  go : List (Option Block) → Option Block
    | [] => none
    | none :: _ => none
    | some block :: rest => if block.label ∈ labels then some block else go rest

end SocketlessTls.Pem
