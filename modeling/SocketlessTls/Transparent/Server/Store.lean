import SocketlessTls.Session.Content
import SocketlessTls.Transparent.Wire

/-!
# What a server keeps of its sessions

A server lets clients resume in two ways. It keeps a session under an identifier of its own, or it
hands the session itself out as a ticket and keeps nothing. A ticket has the layout of a sealed
one: the name of the key, a vector, the session's encoding filled up to whole blocks, and a check
value.

* `SocketlessTls.Transparent.SessionStore` – the sessions that are kept;
* `SocketlessTls.Transparent.Ticket.open?` – the session in a ticket.
-/

namespace SocketlessTls.Transparent

/-- The sessions kept, by their identifiers, and how many identifiers and tickets were given out. -/
structure SessionStore where
  count : Nat
  kept : List (Bytes × SessionContent)
  deriving Repr, DecidableEq

namespace SessionStore

/-- A store with nothing in it. -/
def empty : SessionStore := ⟨0, []⟩

/-- An identifier that was not given out before. -/
def freshId (s : SessionStore) : Bytes × SessionStore :=
  (0xa5 :: Bytes.ofNat 31 s.count, { s with count := s.count + 1 })

/-- The session of an identifier. -/
def find? (s : SessionStore) (id : Bytes) : Option SessionContent := s.kept.lookup id

/-- Forgets the session of an identifier. -/
def erase (s : SessionStore) (id : Bytes) : SessionStore :=
  { s with kept := s.kept.filter fun row => row.1 ≠ id }

/-- Keeps a session under its identifier, if it has one. -/
def insert (s : SessionStore) (c : SessionContent) : SessionStore :=
  if c.id.isEmpty then s else { s.erase c.id with kept := (c.id, c) :: (s.erase c.id).kept }

end SessionStore

namespace Ticket

/-- The name of the key, and the check value. -/
def keyName : Bytes := filler 16 0x7e
def checkValue : Bytes := filler 32 0x7c

/-- A byte string filled up to whole blocks of sixteen bytes. -/
def pad (bs : Bytes) : Bytes :=
  let n := 16 - bs.length % 16
  bs ++ filler n (UInt8.ofNat n)

/-- Puts a session into a ticket; `n` tells tickets apart. -/
def wrap (n : Nat) (c : SessionContent) : Bytes :=
  keyName ++ Bytes.ofNat 16 n ++ pad c.encode ++ checkValue

/-- The session in a ticket, if this is one that was sealed here. -/
def open? (bs : Bytes) : Option SessionContent := do
  if bs.length < 64 ∨ bs.take 16 ≠ keyName ∨ bs.drop (bs.length - 32) ≠ checkValue then none
  else SessionContent.decode? ((bs.drop 32).take (bs.length - 64))

end Ticket

end SocketlessTls.Transparent
