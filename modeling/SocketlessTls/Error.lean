import SocketlessTls.IoKind
import SocketlessTls.State
import SocketlessTls.Text.Quoted
import SocketlessTls.Version

/-!
# Errors

Retry conditions and a peer that closes in order are no errors; everything here means that an
operation did not happen. An error is a cause, and `SocketlessTls.TlsError.message` is the one
place where causes get their words. Where the engine adds a report of its own, the message marks
its place by `<engine>`.

Exactly one kind of error ends a connection: `SocketlessTls.TlsError.fatal`.
-/

namespace SocketlessTls

/-- Stands in a message for the engine's own report. -/
def engineReport : String := "<engine>"

/-! ### Configuration errors -/

/-- Why a setting was refused. -/
inductive ConfigError where
  | invalidVerifyMode (raw : Int)
  | invalidServerName (name : String)
  | invalidCipherList (list : String)
  | invalidCipherSuites (list : String)
  | invalidStatusType (type : Int)
  | invalidVersionRange (min max : String)
  | invalidSigalgs (list : String)
  | unknownVersion (name : String)
  | invalidAlpn (what : String)
  | certificate (what : String)
  | wrongEndpoint
  deriving Repr, DecidableEq

/-- The text of a configuration error. -/
def ConfigError.message : ConfigError → String
  | invalidVerifyMode raw => s!"invalid verify mode: {raw}"
  | invalidServerName name => s!"invalid server name: {Text.quoted name}"
  | invalidCipherList list => s!"invalid cipher list {Text.quoted list}: {engineReport}"
  | invalidCipherSuites list =>
    s!"invalid TLS 1.3 cipher suites {Text.quoted list}: {engineReport}"
  | invalidStatusType type => s!"invalid status type: {type}"
  | invalidVersionRange min max => s!"invalid version range: {min} > {max}"
  | invalidSigalgs list => s!"invalid signature algorithms {Text.quoted list}: {engineReport}"
  | unknownVersion name => s!"unknown TLS version: {Text.quoted name}"
  | invalidAlpn what => s!"invalid ALPN protocol list: {what}"
  | certificate what => s!"certificate error: {what}"
  | wrongEndpoint => "endpoint is not the engine side of its pipe"

/-- The version of a name, or why there is none. -/
def Version.read (name : String) : Except ConfigError Version :=
  match Version.parse? name with
  | some v => .ok v
  | none => .error (.unknownVersion name)

/-! ### Fatal errors -/

/-- One entry of the engine's report of a failure. -/
structure Diagnostic where
  /-- The engine's number for the failure. -/
  code : UInt64
  /-- The part of the engine that failed. -/
  library : Option String
  /-- The reason in words. -/
  reason : Option String
  deriving Repr, DecidableEq

/-- The digits of a number in upper-case hexadecimal, at least eight of them. -/
def paddedHex (n : Nat) : String :=
  let digits := (Nat.toDigits 16 n).map Char.toUpper
  String.ofList (List.replicate (8 - digits.length) '0' ++ digits)

/-- A part of a report that is led by a colon if it is there. -/
def colonPart : Option String → String
  | some s => ":" ++ s
  | none => ""

/-- The text of an entry: its number, and where and why if they are known. -/
def Diagnostic.text (d : Diagnostic) : String :=
  "error:" ++ paddedHex d.code.toNat ++ colonPart d.library ++ colonPart d.reason

/-- Why a connection failed. -/
inductive FatalReason where
  /-- The engine refused the peer: an alert, a certificate, a malformed record. -/
  | protocol
  /-- The pipe was released underneath the engine. -/
  | transportClosed
  /-- The peer went away without a closing alert. -/
  | unexpectedEof
  /-- The engine's transport reported an error. -/
  | io (kind : IoKind)
  /-- A result code without a meaning. -/
  | internal (code : Int32)
  deriving Repr, DecidableEq

/-- The text of a reason. -/
def FatalReason.text : FatalReason → String
  | protocol => "protocol failure"
  | transportClosed => "transport closed"
  | unexpectedEof => "unexpected EOF"
  | io kind => s!"I/O error: {kind.text}"
  | internal code => s!"internal engine error {code.toInt}"

/-- The failure that ended a connection, with the engine's report, oldest entry first. -/
structure FatalError where
  reason : FatalReason
  diagnostics : List Diagnostic
  deriving Repr, DecidableEq

namespace FatalError

/-- The oldest entry of the report, as a rule the root cause. -/
def first (e : FatalError) : Option Diagnostic := e.diagnostics.head?

/-- The text of a fatal error when its first entry is worded by `word`. -/
def describe (e : FatalError) (word : Diagnostic → String) : String :=
  match e.first with
  | some d => e.reason.text ++ " (" ++ word d ++ ")"
  | none => e.reason.text

/-- The text of a fatal error. -/
def message (e : FatalError) : String := e.describe Diagnostic.text

end FatalError

/-! ### All errors -/

/-- Why an operation did not happen. -/
inductive TlsError where
  | configuration (cause : ConfigError)
  | invalidState (operation : String) (state : State)
  | alreadyTerminated (state : State)
  | notYetAvailable (what : String)
  | fatal (cause : FatalError)
  /-- The server asked for a client certificate and none is configured; it accepts these issuers. -/
  | clientCertificateRequested (issuers : List String)
  | resourceExhausted
  | unsupported (operation : String)
  /-- The engine refused an operation outside the exchange of records. -/
  | engine
  deriving Repr, DecidableEq

namespace TlsError

/-- Whether an error ends the connection. -/
def isFatal : TlsError → Bool
  | fatal _ => true
  | _ => false

/-- The fatal error, if this is one. -/
def fatal? : TlsError → Option FatalError
  | fatal cause => some cause
  | _ => none

/-- The text of an error whose fatal causes are worded by `word`. -/
def messageWith (word : FatalError → String) : TlsError → String
  | configuration cause => s!"invalid configuration: {cause.message}"
  | invalidState operation state => s!"{operation} is not valid in state {state.text}"
  | alreadyTerminated state => s!"connection already terminated ({state.text})"
  | notYetAvailable what => s!"{what} is not available before the handshake completes"
  | fatal cause => s!"fatal TLS error: {word cause}"
  | clientCertificateRequested issuers =>
    "server requested a client certificate (acceptable issuers: "
      ++ Text.quotedList issuers ++ ")"
  | resourceExhausted =>
    "buffer allocation failed: memory allocation failed because the computed capacity exceeded "
      ++ "the collection's maximum"
  | unsupported operation => s!"{operation} is not supported by the engine: {engineReport}"
  | engine => s!"OpenSSL error: {engineReport}"

/-- The text of an error. -/
def message : TlsError → String := messageWith FatalError.message

end TlsError

end SocketlessTls
