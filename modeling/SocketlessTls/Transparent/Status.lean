import SocketlessTls.Engine.Interface
import SocketlessTls.Transparent.Machine

/-!
# Where a machine stands

What can be told of a machine without knowing its role: the version, how much data waits inside it,
and, in words, where its handshake stands.
-/

namespace SocketlessTls.Transparent

/-- The engine's name for a version. -/
def versionName : Version → String
  | .tls10 => "TLSv1"
  | v => v.name

/-- The engine's words for a message, as its client sees it. -/
def messageWords : MessageType → String
  | .clientHello => "client hello"
  | .serverHello => "server hello"
  | .newSessionTicket => "server session ticket"
  | .certificate => "server certificate"
  | .serverKeyExchange => "server key exchange"
  | .certificateRequest => "server certificate request"
  | .serverHelloDone => "server done"
  | .clientKeyExchange => "client key exchange"
  | .certificateVerify => "certificate verify"
  | .changeCipher => "change cipher spec"
  | .finished => "finished"
  | .certificateStatus => "certificate status"
  | .helloRequest => "hello request"
  | _ => "message"

/-- The engine's words for a place in the handshake. -/
def placeWords : HandState → String
  | .before => "before SSL initialization"
  | .over => "SSL negotiation finished successfully"
  | .earlyData => "TLSv1.3 early data"
  | .pendingEarlyDataEnd => "TLSv1.3 pending early data end"
  | .sent .endOfEarlyData => "TLSv1.3 write end of early data"
  | .sent .certificate => "SSLv3/TLS write client certificate"
  | .sent m => "SSLv3/TLS write " ++ messageWords m
  | .received .encryptedExtensions => "TLSv1.3 read encrypted extensions"
  | .received .certificateVerify => "TLSv1.3 read server certificate verify"
  | .received m => "SSLv3/TLS read " ++ messageWords m

namespace Machine

variable {ρ : Type}

/-- The engine's words for where a machine stands. -/
def stateText (m : Machine ρ) : String :=
  if m.flow = .broken then "error" else placeWords m.hand

/-- The version agreed on, or else the newest one. -/
def protocolVersion (m : Machine ρ) : ProtocolVersion :=
  let v := m.version.getD .tls13
  ⟨versionName v, v.wire⟩

/-- How much data has been read and not yet handed over. -/
def pendingBytes (m : Machine ρ) : Nat :=
  match m.record with
  | some (type, content) => if type = .applicationData then content.length else 0
  | none => 0

end Machine

end SocketlessTls.Transparent
