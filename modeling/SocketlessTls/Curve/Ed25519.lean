import SocketlessTls.Digest.Sha512

/-!
# The public key of an Ed25519 private key

The private key is a seed. Its digest, with a few bits fixed, is a scalar, and the public key is
that multiple of the base point of the twisted Edwards curve
`-x² + y² = 1 + d x² y²` over the integers modulo `2²⁵⁵ - 19`, written as `y` with the parity of
`x` in the top bit, least significant byte first. Points are kept in extended coordinates.
-/

namespace SocketlessTls.Curve.Ed25519

/-- The size of the field. -/
def fieldSize : Nat := (1 <<< 255) - 19

/-- A power in the field, by squaring; `bits` bounds the length of the exponent. -/
def fieldPow (base : Nat) : (bits exponent : Nat) → Nat
  | 0, _ => 1
  | bits + 1, exponent =>
    let half := fieldPow (base * base % fieldSize) bits (exponent / 2)
    if exponent % 2 = 1 then half * base % fieldSize else half

/-- The inverse of a field element other than zero. -/
def fieldInverse (a : Nat) : Nat := fieldPow a 255 (fieldSize - 2)

/-- The difference of two field elements. -/
def fieldSub (a b : Nat) : Nat := (a + (fieldSize - b % fieldSize)) % fieldSize

/-- The constant `d = -121665 / 121666` of the curve. -/
def curveConstant : Nat := fieldSub 0 (121665 * fieldInverse 121666 % fieldSize)

/-- A point: the coordinates are `x / z` and `y / z`, and `t = x y / z`. -/
structure Point where
  x : Nat
  y : Nat
  z : Nat
  t : Nat

/-- The neutral point. -/
def Point.zero : Point := ⟨0, 1, 1, 0⟩

/-- The base point. -/
def Point.base : Point :=
  let x := 15112221349535400772501151409588531511454012693041857206046113283949847762202
  let y := 46316835694926478169428394003475163141307993866256225615783033603165251855960
  ⟨x, y, 1, x * y % fieldSize⟩

/-- The sum of two points; the formula is complete, so it also doubles. -/
def Point.add (p q : Point) (d : Nat) : Point :=
  let a := fieldSub p.y p.x * fieldSub q.y q.x % fieldSize
  let b := (p.y + p.x) * (q.y + q.x) % fieldSize
  let c := 2 * p.t * q.t % fieldSize * d % fieldSize
  let e := 2 * p.z * q.z % fieldSize
  let f := fieldSub b a
  let g := fieldSub e c
  let h := (e + c) % fieldSize
  let i := (b + a) % fieldSize
  ⟨f * g % fieldSize, h * i % fieldSize, g * h % fieldSize, f * i % fieldSize⟩

/-- A multiple of a point, by doubling; `bits` bounds the length of the scalar. -/
def Point.multiple (d : Nat) (p : Point) : (bits scalar : Nat) → Point
  | 0, _ => Point.zero
  | bits + 1, scalar =>
    let half := Point.multiple d (p.add p d) bits (scalar / 2)
    if scalar % 2 = 1 then half.add p d else half

/-- A point as 32 bytes. -/
def Point.encode (p : Point) : Bytes :=
  let inverse := fieldInverse p.z
  let x := p.x * inverse % fieldSize
  let y := p.y * inverse % fieldSize
  (Bytes.ofNat 32 (y + x % 2 * (1 <<< 255))).reverse

/-- The scalar of a seed: the first half of its digest, least significant byte first, a multiple
of eight between `2²⁵⁴` and `2²⁵⁵`. -/
def scalarOfSeed (seed : Bytes) : Nat :=
  let n := Bytes.toNat ((Digest.Sha512.digest seed).take 32).reverse
  let top := 1 <<< 254
  top + n % top / 8 * 8

/-- The public key of a seed. -/
def publicKeyOfSeed (seed : Bytes) : Bytes :=
  (Point.multiple curveConstant Point.base 255 (scalarOfSeed seed)).encode

end SocketlessTls.Curve.Ed25519
