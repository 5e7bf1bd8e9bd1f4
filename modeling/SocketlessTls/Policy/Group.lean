import SocketlessTls.Policy.CipherText

/-!
# Key-exchange groups

The groups in which two sides agree on a secret, with their numbers and the sizes of what each
side sends. A client offers `SocketlessTls.Policy.Group.offered` and sends a share right away for
the groups of `SocketlessTls.Policy.Group.shared`.
-/

namespace SocketlessTls.Policy

/-- A key-exchange group. -/
inductive Group where
  | x25519MlKem768 | p256MlKem768 | p384MlKem1024 | mlKem512 | mlKem768 | mlKem1024
  | x25519 | p256 | x448 | p384 | p521
  | ffdhe2048 | ffdhe3072 | ffdhe4096 | ffdhe6144 | ffdhe8192
  deriving Repr, DecidableEq

namespace Group

/-- The groups with their numbers, the names they are configured by, and the sizes of a client's
and a server's share. -/
def table : List (Group × UInt16 × List String × Nat × Nat) :=
  [(x25519MlKem768, 0x11ec, ["X25519MLKEM768"], 1216, 1120),
   (p256MlKem768, 0x11eb, ["SecP256r1MLKEM768"], 1249, 1153),
   (p384MlKem1024, 0x11ed, ["SecP384r1MLKEM1024"], 1665, 1665),
   (mlKem512, 0x0200, ["MLKEM512"], 800, 768),
   (mlKem768, 0x0201, ["MLKEM768"], 1184, 1088),
   (mlKem1024, 0x0202, ["MLKEM1024"], 1568, 1568),
   (x25519, 0x001d, ["X25519"], 32, 32),
   (p256, 0x0017, ["P-256", "secp256r1", "prime256v1"], 65, 65),
   (x448, 0x001e, ["X448"], 56, 56),
   (p384, 0x0018, ["P-384", "secp384r1"], 97, 97),
   (p521, 0x0019, ["P-521", "secp521r1"], 133, 133),
   (ffdhe2048, 0x0100, ["ffdhe2048"], 256, 256),
   (ffdhe3072, 0x0101, ["ffdhe3072"], 384, 384),
   (ffdhe4096, 0x0102, ["ffdhe4096"], 512, 512),
   (ffdhe6144, 0x0103, ["ffdhe6144"], 768, 768),
   (ffdhe8192, 0x0104, ["ffdhe8192"], 1024, 1024)]

/-- The number of a group. -/
def id (g : Group) : UInt16 := ((table.lookup g).map (·.1)).getD 0

/-- The size of a client's share. -/
def clientSize (g : Group) : Nat := ((table.lookup g).map (·.2.2.1)).getD 0

/-- The size of a server's share. -/
def serverSize (g : Group) : Nat := ((table.lookup g).map (·.2.2.2)).getD 0

/-- The group of a number. -/
def ofId? (n : UInt16) : Option Group := (table.find? (·.2.1 = n)).map (·.1)

/-- The group of a name, without regard to case. -/
def ofName? (s : String) : Option Group :=
  (table.find? fun row => row.2.2.1.any fun name => name.map Char.toLower = s.map Char.toLower).map
    (·.1)

/-- Whether a group is one of curves alone, which is what versions before TLS 1.3 can use. -/
def isCurve : Group → Bool
  | x25519 | p256 | x448 | p384 | p521 => true
  | _ => false

/-- What is offered when nothing is configured, in rows of equal rank. -/
def rows : List (List Group) :=
  [[x25519MlKem768], [x25519, p256, p256MlKem768], [x448, p384, p521], [ffdhe2048, ffdhe3072]]

/-- The groups that a client offers. -/
def offered : List Group := rows.flatten

/-- The groups that a client sends a share for in its first message. -/
def shared : List Group := [x25519MlKem768, x25519]

/-- The groups of a list of names between colons; rows of equal rank are parted by slashes. -/
def rowsOfText (s : String) : List (List Group) :=
  (splitAtAny (· = '/') s.toList).map fun row =>
    (colonPieces (String.ofList row)).filterMap fun piece =>
      ofName? (String.ofList ((trimBlanks piece).toList.filter fun c => c != '*' && c != '?'))

end Group

end SocketlessTls.Policy
