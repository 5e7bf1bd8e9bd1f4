import SocketlessTls.Connection.Basic
import SocketlessTls.Ocsp

/-!
# What a connection tells about itself

Queries change nothing. They answer once the handshake has completed, during and after closing
too; before that they are not yet available, and after a failure they are refused.
`SocketlessTls.Connection.cipher` is the exception: it goes on answering after a failure, so that
one can see what was negotiated before things went wrong.

* `SocketlessTls.Connection.negotiated`, `cipher`, `peerCertChain` and so on – the queries;
* `SocketlessTls.Question.answer` – all of them as one kind of question with one kind of answer.
-/

namespace SocketlessTls

/-- A status response stapled to the server's certificate, with the peer's chain as it was when the
response was taken. -/
structure StapledOcsp where
  response : Ocsp.Response
  der : Bytes
  chain : Option PeerChain
  deriving Repr, DecidableEq

/-- A stapled response in short. -/
def StapledOcsp.text (o : StapledOcsp) : String :=
  s!"StapledOcsp \x7b status: {Text.quoted o.response.statusName}, len: {o.der.length}, chain: "
    ++ optionText (fun c => toString c.certificates.length) o.chain ++ " \x7d"

namespace Connection

variable {σ : Type} (E : Engine σ) (c : Connection σ)

/-- The state of the engine, once the handshake has completed. -/
def establishedEngine (what : String) : Except TlsError σ := do
  c.ensureNotErrored
  if !c.state.isEstablished then .error (.notYetAvailable what)
  else
    match c.engine with
    | .running s => .ok s
    | _ => .error (.notYetAvailable what)

/-- What was fixed when the handshake completed. -/
def negotiated (what : String) : Except TlsError Negotiated := do
  let _ ← c.establishedEngine what
  match c.info with
  | some info => .ok info
  | none => .error (.notYetAvailable what)

/-- The negotiated protocol version. -/
def protocolVersion : Except TlsError ProtocolVersion :=
  (·.version) <$> c.negotiated "protocol version"

/-- The negotiated cipher, if one has been chosen. -/
def cipher : Except TlsError (Option Cipher) :=
  if c.state = .configured then .error (.notYetAvailable "cipher")
  else
    match c.info with
    | some info => .ok info.cipher
    | none =>
      match c.captured with
      | some captured => .ok (some captured)
      | none =>
        match c.engine with
        | .running s => .ok (E.currentCipher s)
        | _ => .ok none

/-- The peer's certificates as presented in the handshake. -/
def peerCertChain : Except TlsError (Option PeerChain) :=
  (·.chain) <$> c.negotiated "peer certificate chain"

/-- The peer's own certificate. -/
def peerCertificate : Except TlsError (Option X509.Certificate) :=
  E.peerCertificate <$> c.establishedEngine "peer certificate"

/-- The authorities that the server named when it asked for a certificate. -/
def clientCaList : Except TlsError (List String) :=
  (fun s => (E.clientCaNames s).map X509.Name.oneLine) <$> c.establishedEngine "client CA list"

/-- The outcome of verifying the peer's certificate. -/
def verifyResult : Except TlsError VerifyResult :=
  E.verifyResult <$> c.establishedEngine "verify result"

/-- The digest that the peer signed the handshake with. -/
def peerSignatureDigest : Except TlsError (Option String) :=
  E.signatureDigest <$> c.establishedEngine "peer signature digest"

/-- The algorithm that the peer signed the handshake with. -/
def peerSignatureType : Except TlsError (Option String) :=
  E.signatureType <$> c.establishedEngine "peer signature type"

/-- A session to resume on a later connection, as a copy of its own. -/
def session (o : SessionObjects) : Except TlsError (Option Session × SessionObjects) := do
  let s ← c.establishedEngine "session"
  match E.session s with
  | none => .ok (none, o)
  | some live =>
    match live.copy? o with
    | none => .error .engine
    | some (copy, o) => .ok (some copy, o)

/-- Whether a session was resumed. -/
def sessionReused : Except TlsError Bool := E.sessionReused <$> c.establishedEngine "session reuse"

/-- The status response that the server stapled, if one was asked for and sent. -/
def ocspResponse : Except TlsError (Option StapledOcsp) := do
  let s ← c.establishedEngine "OCSP response"
  match E.ocspResponse s with
  | none => .ok none
  | some der =>
    let chain ← match E.peerChain s with
      | none => pure none
      | some encodings =>
        match PeerChain.snapshot? encodings with
        | none => .error .engine
        | some chain => pure (some chain)
    match Ocsp.Response.ofDer? der with
    | none => .error .engine
    | some (response, _) => .ok (some ⟨response, der, chain⟩)

/-- The compression in use. -/
def compressionMethod : Except TlsError (Option String) :=
  E.compression <$> c.establishedEngine "compression method"

/-- The application protocol agreed on. -/
def alpnProtocol : Except TlsError (Option String) :=
  (fun s => (E.alpnProtocol s).map Text.utf8Lossy) <$> c.establishedEngine "ALPN protocol"

/-- The ephemeral key of the server, if the key exchange has one. -/
def ephemeralKey : Except TlsError (Option EphemeralKey) :=
  E.ephemeralKey <$> c.establishedEngine "ephemeral key"

/-- Whether the peer supports secure renegotiation. -/
def secureRenegotiationSupport : Except TlsError Bool :=
  E.secureRenegotiation <$> c.establishedEngine "secure renegotiation support"

/-- Whether the server accepted early data. -/
def earlyDataStatus : Except TlsError EarlyDataStatus := do
  c.ensureNotErrored
  match c.engine with
  | .running s => .ok (.ofRaw (E.earlyDataStatus s))
  | _ => .ok .notSent

/-- The number of decrypted bytes that wait inside the engine. -/
def pendingBytes : Except TlsError Nat := do
  c.ensureNotErrored
  match c.engine with
  | .running s => .ok (E.pendingBytes s)
  | _ => .ok 0

/-- The running engine, or a scratch one for the configuration. -/
def withEngine {α : Type} (f : σ → α) : Except TlsError α :=
  match c.engine with
  | .running s => .ok (f s)
  | _ =>
    match E.build? c.config with
    | some s => .ok (f s)
    | none => .error .engine

/-- The engine's own words for where its handshake stands. -/
def stateText : Except TlsError String := c.withEngine E E.stateText

/-- The names of the enabled ciphers in order of preference. -/
def cipherNames : Except TlsError (List String) := c.withEngine E E.cipherNames

/-- A connection in short. -/
def text : String :=
  let pending := match c.pendingBytes E with
    | .ok n => s!"Some({n})"
    | .error _ => "None"
  s!"Connection \x7b state: {c.state.label}, config: {c.config.text}, pending_bytes: {pending} \x7d"

end Connection

/-- The compression methods of the engine; there are none. -/
def compressionMethods : List String := []

/-! ### Questions -/

/-- What a connection can be asked. -/
inductive Question where
  | protocolVersion
  | cipher
  | peerCertChain
  | peerCertificate
  | clientCaList
  | verifyResult
  | peerSignatureDigest
  | peerSignatureType
  | session
  | sessionReused
  | ocspResponse
  | compressionMethod
  | alpnProtocol
  | ephemeralKey
  | secureRenegotiationSupport
  | earlyDataStatus
  | pendingBytes
  | stateText
  | cipherNames
  deriving Repr, DecidableEq

/-- What a question finds. -/
inductive Finding where
  | version (p : ProtocolVersion)
  | cipher (c : Option Cipher)
  | chain (c : Option PeerChain)
  | certificate (c : Option X509.Certificate)
  | verification (r : VerifyResult)
  | session (s : Option Session)
  | staple (o : Option StapledOcsp)
  | ephemeral (k : Option EphemeralKey)
  | early (s : EarlyDataStatus)
  | flag (b : Bool)
  | count (n : Nat)
  | text (s : Option String)
  | names (ss : List String)
  deriving Repr, DecidableEq

/-- The questions about what a connection has negotiated and where it stands. -/
def Question.facts : List Question :=
  [.protocolVersion, .cipher, .peerCertChain, .peerCertificate, .clientCaList, .verifyResult,
   .peerSignatureDigest, .peerSignatureType, .session, .sessionReused, .ocspResponse,
   .compressionMethod, .alpnProtocol, .ephemeralKey, .secureRenegotiationSupport,
   .earlyDataStatus, .pendingBytes]

/-- The answer of a connection. -/
def Question.answer {σ : Type} (E : Engine σ) (c : Connection σ) (o : SessionObjects) :
    Question → Except TlsError Finding
  | protocolVersion => .version <$> c.protocolVersion
  | cipher => .cipher <$> c.cipher E
  | peerCertChain => .chain <$> c.peerCertChain
  | peerCertificate => .certificate <$> c.peerCertificate E
  | clientCaList => .names <$> c.clientCaList E
  | verifyResult => .verification <$> c.verifyResult E
  | peerSignatureDigest => .text <$> c.peerSignatureDigest E
  | peerSignatureType => .text <$> c.peerSignatureType E
  | session => (fun found => .session found.1) <$> c.session E o
  | sessionReused => .flag <$> c.sessionReused E
  | ocspResponse => .staple <$> c.ocspResponse E
  | compressionMethod => .text <$> c.compressionMethod E
  | alpnProtocol => .text <$> c.alpnProtocol E
  | ephemeralKey => .ephemeral <$> c.ephemeralKey E
  | secureRenegotiationSupport => .flag <$> c.secureRenegotiationSupport E
  | earlyDataStatus => .early <$> c.earlyDataStatus E
  | pendingBytes => .count <$> c.pendingBytes E
  | stateText => (fun s => .text (some s)) <$> c.stateText E
  | cipherNames => .names <$> c.cipherNames E

end SocketlessTls
