import SocketlessTls.Bytes

/-!
# Engine options

Options are bits that are handed to the engine as they are, known or not. Setting options adds
bits and never takes any away. A set of options is shown by the names of its bits, and bits
without a name as a number.
-/

namespace SocketlessTls

/-- A set of engine options. -/
structure Options where
  bits : UInt64
  deriving Repr, DecidableEq

namespace Options

/-- No options. -/
def empty : Options := ⟨0⟩

/-- The options of either set. -/
def union (a b : Options) : Options := ⟨a.bits ||| b.bits⟩

/-- Whether every option of `b` is set. -/
def contains (a b : Options) : Bool := a.bits &&& b.bits == b.bits

/-- Neither offer nor accept session tickets. -/
def noTicket : Options := ⟨0x4000⟩

/-- Do not compress records. -/
def noCompression : Options := ⟨0x20000⟩

/-- Never negotiate the given version. -/
def noTls10 : Options := ⟨0x04000000⟩
def noTls11 : Options := ⟨0x10000000⟩
def noTls12 : Options := ⟨0x08000000⟩
def noTls13 : Options := ⟨0x20000000⟩

/-- The named sets of bits, in the order in which they are shown. -/
def names : List (String × Options) :=
  [("DONT_INSERT_EMPTY_FRAGMENTS", ⟨0x800⟩), ("ALL", ⟨0x80000850⟩), ("NO_QUERY_MTU", ⟨0x1000⟩),
   ("COOKIE_EXCHANGE", ⟨0x2000⟩), ("NO_TICKET", noTicket),
   ("NO_SESSION_RESUMPTION_ON_RENEGOTIATION", ⟨0x10000⟩), ("NO_COMPRESSION", noCompression),
   ("ALLOW_UNSAFE_LEGACY_RENEGOTIATION", ⟨0x40000⟩), ("TLS_ROLLBACK_BUG", ⟨0x800000⟩),
   ("NO_SSLV3", ⟨0x02000000⟩), ("NO_TLSV1", noTls10), ("NO_TLSV1_1", noTls11),
   ("NO_TLSV1_2", noTls12), ("NO_TLSV1_3", noTls13), ("NO_SSL_MASK", ⟨0x3E000000⟩),
   ("ENABLE_MIDDLEBOX_COMPAT", ⟨0x100000⟩), ("PRIORITIZE_CHACHA", ⟨0x200000⟩),
   ("CIPHER_SERVER_PREFERENCE", ⟨0x400000⟩), ("NO_RENEGOTIATION", ⟨0x40000000⟩)]

/-- The names of the sets that lie in `all`, each for bits that are still without a name, and the
bits that remain. -/
def nameParts (all : UInt64) : UInt64 → List (String × Options) → List String × UInt64
  | left, [] => ([], left)
  | left, (name, set) :: rest =>
    if all &&& set.bits == set.bits && left &&& set.bits != 0 then
      let (parts, left) := nameParts all (left &&& ~~~ set.bits) rest
      (name :: parts, left)
    else nameParts all left rest

/-- A set of options by the names of its bits. -/
def text (o : Options) : String :=
  if o.bits = 0 then "SslOptions(0x0)"
  else
    let (parts, left) := nameParts o.bits o.bits names
    let rest := if left = 0 then [] else ["0x" ++ Bytes.hexOfNat left.toNat]
    "SslOptions(" ++ " | ".intercalate (parts ++ rest) ++ ")"

end Options

end SocketlessTls
