import SocketlessTls.Error

/-!
# Verification modes

What a client does about the server's certificate. Each mode has the number by which the engine
knows it.

* `SocketlessTls.VerifyMode.ofRaw?_raw` – the number of a mode names that mode.
-/

namespace SocketlessTls

/-- A verification mode. -/
inductive VerifyMode where
  /-- Accept any certificate. -/
  | none
  /-- Verify the certificate and fail if it does not verify. -/
  | peer
  /-- Fail if the peer sends no certificate; this means something to servers only. -/
  | failIfNoPeerCert
  /-- Ask for a client certificate on the first handshake only. -/
  | clientOnce
  deriving Repr, DecidableEq

namespace VerifyMode

/-- The number of a mode. -/
def raw : VerifyMode → Int
  | none => 0
  | peer => 1
  | failIfNoPeerCert => 2
  | clientOnce => 4

/-- The name of a mode as a label. -/
def label : VerifyMode → String
  | none => "None"
  | peer => "Peer"
  | failIfNoPeerCert => "FailIfNoPeerCert"
  | clientOnce => "ClientOnce"

/-- The mode of a number. -/
def ofRaw? (n : Int) : Option VerifyMode :=
  [none, peer, failIfNoPeerCert, clientOnce].find? (·.raw = n)

/-- The number of a mode names that mode. -/
@[simp] theorem ofRaw?_raw (m : VerifyMode) : ofRaw? m.raw = some m := by cases m <;> decide

/-- The mode of a number, or why there is none. -/
def ofRaw (n : Int) : Except ConfigError VerifyMode :=
  match ofRaw? n with
  | some m => .ok m
  | Option.none => .error (.invalidVerifyMode n)

end VerifyMode

end SocketlessTls
