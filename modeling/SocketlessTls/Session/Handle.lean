import SocketlessTls.Session.Content

/-!
# Session handles

The engine keeps sessions as objects that several holders may share, and it may declare an object
unfit for resumption at any time, for instance when a connection that holds it goes away without
shutting down. A handle therefore never shares an object with an engine: taking a session from a
connection and handing one to a connection both go through the written form, which makes a fresh
object.

* `SocketlessTls.SessionObjects` – which objects exist, and which of them may not be resumed;
* `SocketlessTls.Session` – a handle: an object and what it holds;
* `SocketlessTls.Session.copy?` – a fresh object with the same contents.
-/

namespace SocketlessTls

/-- The identity of a session object. -/
abbrev ObjectId := Nat

/-- The session objects made so far, numbered from zero, and those that may not be resumed. -/
structure SessionObjects where
  next : ObjectId
  retired : List ObjectId
  deriving Repr, DecidableEq

namespace SessionObjects

/-- No objects. -/
def empty : SessionObjects := ⟨0, []⟩

/-- A fresh object. -/
def fresh (o : SessionObjects) : ObjectId × SessionObjects :=
  (o.next, { o with next := o.next + 1 })

/-- The objects after one of them has been declared unfit for resumption. -/
def retire (o : SessionObjects) (id : ObjectId) : SessionObjects :=
  { o with retired := id :: o.retired }

/-- Whether an object may be resumed. -/
def isResumable (o : SessionObjects) (id : ObjectId) : Bool := !o.retired.contains id

end SessionObjects

/-- A negotiated session that a later connection may resume. -/
structure Session where
  object : ObjectId
  content : SessionContent
  deriving Repr, DecidableEq

namespace Session

/-- The session that a byte string holds, as a fresh object. -/
def ofDer? (der : Bytes) (o : SessionObjects) : Option (Session × SessionObjects) := do
  let content ← SessionContent.decode? der
  let (object, o) := o.fresh
  return (⟨object, content⟩, o)

/-- The written form of a session. -/
def toDer (s : Session) : Bytes := s.content.encode

/-- A fresh object with the contents of this one. -/
def copy? (s : Session) (o : SessionObjects) : Option (Session × SessionObjects) := ofDer? s.toDer o

/-- The identifier; empty where a session is known by its ticket alone. -/
def id (s : Session) : Bytes := s.content.id

/-- The most early data that the server takes when the session is resumed. -/
def maxEarlyData (s : Session) : UInt32 := s.content.maxEarlyData

/-- The protocol version, if it is a known one. -/
def version? (s : Session) : Option Version := s.content.version?

/-- A session in short. -/
def text (s : Session) : String :=
  let version := match s.version? with
    | some v => s!"Some({v.label})"
    | none => "None"
  s!"Session \x7b id_len: {s.id.length}, protocol_version: {version}, max_early_data: "
    ++ s!"{s.maxEarlyData.toNat} \x7d"

end Session

end SocketlessTls
