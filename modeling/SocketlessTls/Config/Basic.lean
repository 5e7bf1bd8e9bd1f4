import SocketlessTls.Config.Alpn
import SocketlessTls.Config.Options
import SocketlessTls.Config.VerifyMode
import SocketlessTls.Net.Address
import SocketlessTls.Session.Handle
import SocketlessTls.X509.PrivateKey

/-!
# Client configurations

A configuration is a plain value. Every setting is checked when it is made: a refused one leaves
the configuration as it was, and one that is accepted changes the fields of its own and no others.
What only the engine can check – lists of ciphers and algorithms, armoured text, the match of a
key and a certificate – is left to a `SocketlessTls.Screening`, which may be any such checks.

* `SocketlessTls.Config.initial` – nothing set: any version, verification on, nothing trusted;
* `SocketlessTls.Setting` – one constructor for each thing that can be set;
* `SocketlessTls.Setting.apply` – what a setting does to a configuration.
-/

namespace SocketlessTls

/-- Which ciphers a connection remembers. -/
inductive CaptureMode where
  /-- Look at the engine after each handshake step. -/
  | perStep
  /-- Only ask the engine once the handshake is over. -/
  | disabled
  deriving Repr, DecidableEq

/-- The name of a capture mode as a label. -/
def CaptureMode.label : CaptureMode → String
  | perStep => "PerStep"
  | disabled => "Disabled"

/-- The settings of a client connection. -/
structure Config where
  minVersion : Option Version
  maxVersion : Option Version
  verifyMode : VerifyMode
  serverName : Option String
  cipherList : Option String
  cipherSuites : Option String
  sigalgs : Option String
  options : Options
  session : Option Session
  requestOcsp : Bool
  alpn : List String
  trusted : List X509.Certificate
  clientCertificate : Option (X509.Certificate × X509.PrivateKey)
  reportCertificateRequest : Bool
  captureMode : CaptureMode
  deriving Repr, DecidableEq

namespace Config

/-- A configuration with nothing set. -/
def initial : Config where
  minVersion := none
  maxVersion := none
  verifyMode := .peer
  serverName := none
  cipherList := none
  cipherSuites := none
  sigalgs := none
  options := .empty
  session := none
  requestOcsp := false
  alpn := []
  trusted := []
  clientCertificate := none
  reportCertificateRequest := false
  captureMode := .perStep

/-- Whether the engine is told to wait when the server asks for a client certificate. A configured
certificate takes precedence. -/
def defersClientCertificate (c : Config) : Bool :=
  c.clientCertificate.isNone && c.reportCertificateRequest

end Config

/-! ### Server names -/

namespace ServerName

/-- The longest name. -/
def maxLength : Nat := 255

/-- Whether a text can be the name by which a client asks for a server. It is ASCII, not empty, not
too long, without NUL and without a dot in front, and it is not the text of an internet address,
which has no place among names. -/
def isValid (s : String) : Bool :=
  !s.isEmpty && s.utf8ByteSize ≤ maxLength && s.toList.all (·.toNat < 128)
    && !s.toList.contains '\x00' && s.toList.head? != some '.'
    && (Net.Address.parse? s).isNone

end ServerName

/-! ### Screening -/

/-- The checks of settings that are the engine's to make. -/
structure Screening where
  /-- Whether the engine can make a context to screen a list in. -/
  hasContext : Bool
  cipherList : String → Bool
  cipherSuites : String → Bool
  sigalgs : String → Bool
  /-- The certificate in armoured text. -/
  certificateOfPem? : Bytes → Option X509.Certificate
  /-- The private key in armoured text. -/
  keyOfPem? : Bytes → Option X509.PrivateKey
  /-- The public key of a certificate, if the engine can make one of it. -/
  publicKey? : X509.Certificate → Option X509.PublicKey
  /-- Whether a private key belongs to a public key. -/
  keysMatch : X509.PrivateKey → X509.PublicKey → Bool

/-! ### Settings -/

/-- One thing that can be set, with its value. -/
inductive Setting where
  | version (v : Version)
  | versionRange (min max : Version)
  | verifyMode (mode : VerifyMode)
  | verifyModeRaw (raw : Int)
  | serverName (name : String)
  | cipherList (list : String)
  | cipherSuites (list : String)
  | sigalgs (list : String)
  | options (o : Options)
  | disableTickets
  | session (s : Session)
  | statusType (type : Int)
  | requestOcsp
  | alpn (protocols : List String)
  | trust (c : X509.Certificate)
  | clientCertificate (c : X509.Certificate) (key : X509.PrivateKey)
  | clientCertificatePem (text : Bytes)
  | reportCertificateRequest (on : Bool)
  | captureMode (mode : CaptureMode)
  deriving Repr, DecidableEq

/-- What becomes of a setting. -/
inductive Applied where
  | accepted (c : Config)
  | refused (e : TlsError)
  /-- The text could not be handed to the engine, and the program stopped. -/
  | aborted
  deriving Repr, DecidableEq

/-- The number of the only status type that can be asked for. -/
def statusTypeOcsp : Int := 1

/-- Whether the engine can be given a text; its texts end at the first NUL. -/
def isEngineText (s : String) : Bool := !s.toList.contains '\x00'

/-- A setting that is refused as invalid. -/
def Applied.invalid (e : ConfigError) : Applied := .refused (.configuration e)

/-- A list that the engine screens. Before it is given the list, the engine makes a context for
that, and if it cannot, the list does not matter. -/
def screened (sc : Screening) (accepts : String → Bool) (list : String) (error : ConfigError)
    (c : Config) : Applied :=
  if !sc.hasContext then .refused .engine
  else if !isEngineText list then .aborted
  else if accepts list then .accepted c
  else .invalid error

/-- A client certificate with its key. -/
def Config.withClientCertificate (sc : Screening) (c : Config) (cert : X509.Certificate)
    (key : X509.PrivateKey) : Applied :=
  match sc.publicKey? cert with
  | none => .refused .engine
  | some publicKey =>
    if sc.keysMatch key publicKey then .accepted { c with clientCertificate := some (cert, key) }
    else .invalid (.certificate "private key does not match certificate")

/-- What a setting does to a configuration. -/
def Setting.apply (sc : Screening) (c : Config) : Setting → Applied
  | version v => .accepted { c with minVersion := some v, maxVersion := some v }
  | versionRange min max =>
    if min ≤ max then .accepted { c with minVersion := some min, maxVersion := some max }
    else .invalid (.invalidVersionRange min.name max.name)
  | verifyMode mode => .accepted { c with verifyMode := mode }
  | verifyModeRaw raw =>
    match VerifyMode.ofRaw raw with
    | .ok mode => .accepted { c with verifyMode := mode }
    | .error e => .invalid e
  | serverName name =>
    if ServerName.isValid name then .accepted { c with serverName := some name }
    else .invalid (.invalidServerName name)
  | cipherList list =>
    screened sc sc.cipherList list (.invalidCipherList list) { c with cipherList := some list }
  | cipherSuites list =>
    screened sc sc.cipherSuites list (.invalidCipherSuites list)
      { c with cipherSuites := some list }
  | sigalgs list =>
    screened sc sc.sigalgs list (.invalidSigalgs list) { c with sigalgs := some list }
  | options o => .accepted { c with options := c.options.union o }
  | disableTickets => .accepted { c with options := c.options.union .noTicket }
  | session s => .accepted { c with session := some s }
  | statusType type =>
    if type = statusTypeOcsp then .accepted { c with requestOcsp := true }
    else .invalid (.invalidStatusType type)
  | requestOcsp => .accepted { c with requestOcsp := true }
  | alpn protocols =>
    match Alpn.check protocols with
    | some e => .invalid e
    | none => .accepted { c with alpn := protocols }
  | trust cert => .accepted { c with trusted := c.trusted ++ [cert] }
  | clientCertificate cert key => c.withClientCertificate sc cert key
  | clientCertificatePem text =>
    match sc.certificateOfPem? text with
    | none => .invalid (.certificate s!"Failed to load certificate: {engineReport}")
    | some cert =>
      match sc.keyOfPem? text with
      | none => .invalid (.certificate s!"Failed to load private key: {engineReport}")
      | some key => c.withClientCertificate sc cert key
  | reportCertificateRequest on => .accepted { c with reportCertificateRequest := on }
  | captureMode mode => .accepted { c with captureMode := mode }

/-! ### Text -/

/-- An optional part of a text. -/
def optionText {α : Type} (word : α → String) : Option α → String
  | some a => s!"Some({word a})"
  | none => "None"

/-- A configuration field by field; of secrets, only whether they are there. -/
def Config.text (c : Config) : String :=
  let fields : List (String × String) :=
    [("min_version", optionText Version.label c.minVersion),
     ("max_version", optionText Version.label c.maxVersion),
     ("verify_mode", c.verifyMode.label),
     ("servername", optionText Text.quoted c.serverName),
     ("cipher_list", optionText Text.quoted c.cipherList),
     ("ciphersuites", optionText Text.quoted c.cipherSuites),
     ("sigalgs", optionText Text.quoted c.sigalgs),
     ("options", c.options.text),
     ("session", toString c.session.isSome),
     ("request_ocsp", toString c.requestOcsp),
     ("alpn", Text.quotedList c.alpn),
     ("trusted", toString c.trusted.length),
     ("client_cert", toString c.clientCertificate.isSome),
     ("report_client_cert_request", toString c.reportCertificateRequest),
     ("capture_mode", c.captureMode.label)]
  "TlsConfig \x7b " ++ ", ".intercalate (fields.map fun (name, value) => s!"{name}: {value}")
    ++ " \x7d"

end SocketlessTls
