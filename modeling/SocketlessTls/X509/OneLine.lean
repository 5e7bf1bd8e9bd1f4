import SocketlessTls.X509.Name

/-!
# The line of a name, attribute by attribute

`SocketlessTls.X509.Name.oneLine` says at once what the line of a name comes to. Here the line is
put together attribute by attribute, from what a registry of objects has to say. A registry gives
every object a number and knows the short names of numbers, so an attribute's type is looked up
twice; and where that does not lead to a name, the object's own text takes its place.

A registry has one number more than it has objects. It stands for no object, and may well have a
short name nevertheless.
-/

namespace SocketlessTls.X509

/-- An object identifier in figures: its arcs with dots between them. -/
def ObjectId.dotted (object : ObjectId) : String := ".".intercalate (object.map toString)

/-- A registry of objects, with numbers of the type `ν`. -/
structure Registry (ν : Type) where
  /-- The number of an object. -/
  number : ObjectId → ν
  /-- The number that stands for no object. -/
  undefined : ν
  /-- The short name that goes with a number. -/
  shortName? : ν → Option String
  /-- The text of an object without regard to short names. -/
  objectText : ObjectId → String

namespace Registry

variable {ν : Type}

/-- The name of an attribute type: the short name of its number, or else the object's own text. -/
def key (r : Registry ν) (object : ObjectId) : String :=
  (r.shortName? (r.number object)).getD (r.objectText object)

/-- The registry behind `SocketlessTls.X509.ObjectId.shortName`. The number of an object is the
object itself. -/
def builtin : Registry (Option ObjectId) where
  number object := if (ObjectId.shortName? object).isSome then some object else none
  undefined := none
  shortName?
    | none => some "UNDEF"
    | some object => ObjectId.shortName? object
  objectText := ObjectId.dotted

end Registry

/-- The line of a name, with what a registry calls its attribute types. -/
def Name.lineIn {ν : Type} (r : Registry ν) (n : Name) : String :=
  n.attributes.foldl (fun line a => line ++ "/" ++ r.key a.type ++ "=" ++ a.value.display) ""

end SocketlessTls.X509
