import SocketlessTls.Suite

/-!
# Lists of ciphers as text

Two texts say which suites a side of a connection uses. A list of classic suites, for versions
before TLS 1.3, is a row of the engine's own names; unknown names are skipped, and the list is good
if one name is known. It may also set the level of security that the side insists on. A list of
modern suites is a row of registered names, under the same rule.

* `SocketlessTls.Policy.ClassicList.parse?` – the classic suites in order, without repeats, and
  the level;
* `SocketlessTls.Policy.modernSuites?` – the modern suites in order.
-/

namespace SocketlessTls.Policy

/-- Cuts a text at every character of a class. -/
def splitAtAny (separator : Char → Bool) : List Char → List (List Char)
  | [] => [[]]
  | c :: rest =>
    if separator c then [] :: splitAtAny separator rest
    else
      match splitAtAny separator rest with
      | [] => [[c]]
      | piece :: pieces => (c :: piece) :: pieces

/-- The pieces of a text between colons. -/
def colonPieces (s : String) : List String :=
  (splitAtAny (· = ':') s.toList).map String.ofList

/-- A piece of text without the blanks around it. -/
def trimBlanks (s : String) : String :=
  let isBlank (c : Char) : Bool := c = ' ' || (9 ≤ c.toNat && c.toNat ≤ 13)
  String.ofList ((s.toList.dropWhile isBlank).reverse.dropWhile isBlank).reverse

/-! ### Classic suites -/

/-- The level of security where no text says otherwise. -/
def defaultLevel : Nat := 2

/-- What a list of classic suites says. -/
structure ClassicList where
  suites : List Suite
  /-- How strict to be, from 0 for anything to 5. -/
  level : Nat
  deriving Repr, DecidableEq

namespace ClassicList

/-- What holds where there is no list. -/
def initial : ClassicList := ⟨Suite.defaultClassic, defaultLevel⟩

/-- One word of a list. -/
inductive Word where
  | name (s : String)
  | command (s : String)
  deriving Repr, DecidableEq

/-- Whether a character may stand in the name of a suite. -/
def isNameChar (c : Char) : Bool :=
  c.isAlphanum || c = '-' || c = '.' || c = '=' || c = '_'

/-- Whether a character parts two words. -/
def isSeparator (c : Char) : Bool := c = ':' || c = ' ' || c = ';' || c = ','

/-- The words of a list. A command starts with an at sign and may follow a name directly. -/
def words (s : String) : List Word :=
  (splitAtAny isSeparator s.toList).flatMap fun piece =>
    match splitAtAny (· = '@') piece with
    | [] => []
    | name :: commands =>
      (if name.isEmpty then [] else [.name (String.ofList name)])
        ++ commands.map fun c => .command (String.ofList c)

/-- The classic suite of a name. -/
def suite? (name : String) : Option Suite :=
  if name.toList.all isNameChar then
    (Suite.defaultClassic ++ Suite.otherClassic).find? (·.name = name)
  else none

/-- The suites that a word adds at the end of a list. -/
def addedBy (isFirst : Bool) : Word → List Suite
  | .name s => if isFirst && s = "DEFAULT" then Suite.defaultClassic else (suite? s).toList
  | .command _ => []

/-- The level that a word sets. -/
def levelOf? : Word → Option Nat
  | .command "SECLEVEL=0" => some 0
  | .command "SECLEVEL=1" => some 1
  | .command "SECLEVEL=2" => some 2
  | .command "SECLEVEL=3" => some 3
  | .command "SECLEVEL=4" => some 4
  | .command "SECLEVEL=5" => some 5
  | _ => none

/-- A list without those of its members that stood before. -/
def dedup (suites : List Suite) : List Suite :=
  suites.foldl (fun kept s => if s ∈ kept then kept else kept ++ [s]) []

/-- What a list of classic suites says, if it names a suite that is known. -/
def parse? (s : String) : Option ClassicList :=
  let ws := words s
  let suites := dedup <| match ws with
    | [] => []
    | w :: ws => addedBy true w ++ ws.flatMap (addedBy false)
  if suites.isEmpty then none
  else some ⟨suites, ((ws.filterMap levelOf?).getLast?).getD defaultLevel⟩

end ClassicList

/-! ### Modern suites -/

/-- The suites of a list of registered names. An empty list switches TLS 1.3 suites off; any other
must name a suite that is known. -/
def modernSuites? (s : String) : Option (List Suite) :=
  if s.isEmpty then some []
  else
    let found := (colonPieces s).filterMap fun piece =>
      Suite.all.find? (·.standardName = trimBlanks piece)
    if found.isEmpty then none else some found

/-! ### What a level of security admits -/

/-- The bits of security that a level asks for. -/
def levelBits : (level : Nat) → Nat
  | 0 => 0
  | 1 => 80
  | 2 => 112
  | 3 => 128
  | 4 => 192
  | _ => 256

/-- Whether a level of security admits a suite. Levels from 3 on ask for a key exchange that keeps
past connections secret. -/
def admitsSuite (level : Nat) (s : Suite) : Bool :=
  levelBits level ≤ s.enc.bits
    && (level < 3 || s.kx = .any || s.kx = .ecdhe || s.kx = .dhe)

/-- The versions that a level of security admits. -/
def admitsVersion (level : Nat) (v : Version) : Bool :=
  v != .ssl3 && (level = 0 || v = .tls12 || v = .tls13)

end SocketlessTls.Policy
