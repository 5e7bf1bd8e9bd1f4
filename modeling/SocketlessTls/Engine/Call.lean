import SocketlessTls.Pipe
import SocketlessTls.Session.Handle

/-!
# Engine calls

An engine does its work in calls. During a call it may read from and write to its end of the pipe,
make a session object, and declare one unfit for resumption; it can do nothing else to the world
around it. A call is the tree of what it does next for every answer it may get, and
`SocketlessTls.Call.run` carries it out.

Both ends of a pipe can be driven by calls, so running one names the end.
-/

namespace SocketlessTls

/-- What a call does, and what it yields in the end. -/
inductive Call (α : Type) : Type where
  | done (a : α)
  /-- Reads at most so many bytes. -/
  | read (max : Nat) (next : Except IoError Bytes → Call α)
  /-- Writes what fits. -/
  | write (data : Bytes) (next : Except IoError Nat → Call α)
  /-- Makes a session object. -/
  | makeObject (next : ObjectId → Call α)
  /-- Declares a session object unfit for resumption. -/
  | retireObject (id : ObjectId) (next : Call α)

namespace Call

variable {α β : Type}

/-- One call after another. -/
def bind : Call α → (α → Call β) → Call β
  | done a, f => f a
  | read max next, f => read max fun r => (next r).bind f
  | write data next, f => write data fun r => (next r).bind f
  | makeObject next, f => makeObject fun id => (next id).bind f
  | retireObject id next, f => retireObject id (next.bind f)

instance : Monad Call where
  pure := done
  bind := bind

/-- What a call acts on. -/
structure World where
  pipe : Pipe
  objects : SessionObjects
  deriving Repr, DecidableEq

/-- Carries out a call at one end of a pipe. -/
def run (side : Side) : Call α → World → α × World
  | done a, w => (a, w)
  | read max next, w =>
    let (result, buffer, pipe) := w.pipe.ioRead side (List.replicate max 0)
    (next (result.map fun n => buffer.take n)).run side { w with pipe }
  | write data next, w =>
    let (result, pipe) := w.pipe.ioWrite side data
    (next result).run side { w with pipe }
  | makeObject next, w =>
    let (id, objects) := w.objects.fresh
    (next id).run side { w with objects }
  | retireObject id next, w => next.run side { w with objects := w.objects.retire id }

end Call

end SocketlessTls
