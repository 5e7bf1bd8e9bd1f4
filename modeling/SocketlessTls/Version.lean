import SocketlessTls.Text.UpperCase

/-!
# Protocol versions

The versions of the protocol, oldest first, with the number that each has on the wire and the
names that it is written and read under.

* `SocketlessTls.Version.ofWire?_wire` – the number of a version names that version;
* `SocketlessTls.Version.parse?` – reads a name without regard to case.
-/

namespace SocketlessTls

/-- A version of the protocol. -/
inductive Version where
  | ssl3
  | tls10
  | tls11
  | tls12
  | tls13
  deriving Repr, DecidableEq

namespace Version

/-- Every version, oldest first. -/
def all : List Version := [ssl3, tls10, tls11, tls12, tls13]

/-- The number of a version on the wire. -/
def wire : Version → UInt16
  | ssl3 => 0x0300
  | tls10 => 0x0301
  | tls11 => 0x0302
  | tls12 => 0x0303
  | tls13 => 0x0304

/-- The version of a number. -/
def ofWire? (n : UInt16) : Option Version := all.find? (·.wire = n)

/-- The number of a version names that version. -/
@[simp] theorem ofWire?_wire (v : Version) : ofWire? v.wire = some v := by cases v <;> decide

/-- The name of a version. -/
def name : Version → String
  | ssl3 => "SSLv3"
  | tls10 => "TLSv1.0"
  | tls11 => "TLSv1.1"
  | tls12 => "TLSv1.2"
  | tls13 => "TLSv1.3"

/-- The name of a version as a label. -/
def label : Version → String
  | ssl3 => "Ssl3"
  | tls10 => "Tls10"
  | tls11 => "Tls11"
  | tls12 => "Tls12"
  | tls13 => "Tls13"

/-- The place of a version in time. -/
def rank : Version → Nat
  | ssl3 => 0
  | tls10 => 1
  | tls11 => 2
  | tls12 => 3
  | tls13 => 4

/-- A version is at most another if it is not newer. -/
instance : LE Version := ⟨fun v w => v.rank ≤ w.rank⟩

instance (v w : Version) : Decidable (v ≤ w) := inferInstanceAs (Decidable (v.rank ≤ w.rank))

/-- Which of two versions is older. -/
def compare (v w : Version) : Ordering := Ord.compare v.rank w.rank

/-- The names that a version is read under, in upper case. -/
def readNames : Version → List String
  | ssl3 => ["SSLV3", "SSL3"]
  | tls10 => ["TLSV1.0", "TLS1.0", "TLSV1", "TLS1"]
  | tls11 => ["TLSV1.1", "TLS1.1"]
  | tls12 => ["TLSV1.2", "TLS1.2"]
  | tls13 => ["TLSV1.3", "TLS1.3"]

/-- Reads the name of a version without regard to case. -/
def parse? (s : String) : Option Version :=
  all.find? fun v => Text.upperCase s ∈ v.readNames

end Version

end SocketlessTls
