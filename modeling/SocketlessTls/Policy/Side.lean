import SocketlessTls.Config.Basic
import SocketlessTls.Pem
import SocketlessTls.Policy.Group
import SocketlessTls.Policy.Scheme

/-!
# What each side of a connection is willing to do

The texts of a configuration are checked when they are set. They are read once, and what they mean
is kept as a `SocketlessTls.Policy.Terms`: the versions, suites, groups and schemes that a side
agrees to. A client adds what it checks and asks for, and a server what it presents and keeps.

* `SocketlessTls.Policy.screening` – which lists are good, and how certificates and keys are read
  from armoured text;
* `SocketlessTls.Policy.Client.ofConfig?` – what a client configuration means; none if its own key
  is too weak for its level of security.
-/

namespace SocketlessTls.Policy

/-! ### Checks -/

/-- The first certificate in armoured text. -/
def certificateOfPem? (text : Bytes) : Option X509.Certificate :=
  (Pem.firstBlock? ["CERTIFICATE", "X509 CERTIFICATE", "TRUSTED CERTIFICATE"] text).bind
    fun block => X509.Certificate.ofDer? block.contents

/-- The first private key in armoured text. -/
def keyOfPem? (text : Bytes) : Option X509.PrivateKey :=
  (Pem.firstBlock? ["PRIVATE KEY"] text).bind fun block => X509.PrivateKey.ofDer? block.contents

/-- The public key of a certificate, if it is of a known family. -/
def publicKey? (c : X509.Certificate) : Option X509.PublicKey :=
  if c.publicKey.family = .unknown then none else some c.publicKey

/-- The checks of a configuration. -/
def screening : Screening where
  hasContext := true
  cipherList s := (ClassicList.parse? s).isSome
  cipherSuites s := (modernSuites? s).isSome
  sigalgs s := (Scheme.ofTextList? s).isSome
  certificateOfPem? := certificateOfPem?
  keyOfPem? := keyOfPem?
  publicKey? := publicKey?
  keysMatch key publicKey := key.publicKey = publicKey

/-! ### Terms -/

/-- What a side agrees to. -/
structure Terms where
  level : Nat
  /-- The enabled versions, oldest first, without gaps. -/
  versions : List Version
  modern : List Suite
  classic : List Suite
  /-- The groups in rows of equal rank. -/
  groupRows : List (List Group)
  schemes : List Scheme
  deriving Repr, DecidableEq

namespace Terms

/-- The groups in order. -/
def groups (t : Terms) : List Group := t.groupRows.flatten

/-- The suites that the level admits: modern ones, then classic ones. -/
def admittedModern (t : Terms) : List Suite := t.modern.filter (admitsSuite t.level)
def admittedClassic (t : Terms) : List Suite := t.classic.filter (admitsSuite t.level)

/-- The schemes that the level admits. -/
def admittedSchemes (t : Terms) : List Scheme := t.schemes.filter (·.isAt t.level)

end Terms

/-- The oldest run without gaps among the versions of a predicate. -/
def oldestRun (enabled : Version → Bool) : List Version :=
  (Version.all.dropWhile fun v => !enabled v).takeWhile enabled

/-- The versions that bounds, options and a level leave. -/
def enabledVersions (min max : Option Version) (o : Options) (level : Nat) : List Version :=
  oldestRun fun v =>
    min.all (fun lo => decide (lo ≤ v)) && max.all (fun hi => decide (v ≤ hi))
      && admitsVersion level v
      && match v with
        | .ssl3 => false
        | .tls10 => !o.contains .noTls10
        | .tls11 => !o.contains .noTls11
        | .tls12 => !o.contains .noTls12
        | .tls13 => !o.contains .noTls13

/-- What three texts and a version range mean; texts that were screened before always read. -/
def Terms.ofTexts (classic modern sigalgs groups : Option String) (min max : Option Version)
    (o : Options) : Terms :=
  let list := (classic.bind ClassicList.parse?).getD .initial
  { level := list.level
    versions := enabledVersions min max o list.level
    modern := (modern.bind modernSuites?).getD Suite.defaultModern
    classic := list.suites
    groupRows := (groups.map Group.rowsOfText).getD Group.rows
    schemes := (sigalgs.bind Scheme.ofTextList?).getD Scheme.all }

/-! ### Clients -/

/-- What a client is willing to do. -/
structure Client where
  terms : Terms
  /-- Whether a bad certificate ends the handshake. -/
  verifies : Bool
  trusted : List X509.Certificate
  identity : Option (X509.Certificate × X509.PrivateKey)
  /-- Whether to wait when a certificate is asked for and there is none. -/
  defers : Bool
  serverName : Option Bytes
  /-- The protocols on offer, as they go on the wire. -/
  alpn : Bytes
  wantsOcsp : Bool
  tickets : Bool
  deriving Repr, DecidableEq

/-- Whether a key is strong enough for a level. -/
def admitsKey (level : Nat) (family : X509.KeyFamily) : Bool :=
  levelBits level ≤ family.securityBits

/-- What a client configuration means. -/
def Client.ofConfig? (c : Config) : Option Client :=
  let terms := Terms.ofTexts c.cipherList c.cipherSuites c.sigalgs none c.minVersion c.maxVersion
    c.options
  let keyIsGood := match c.clientCertificate with
    | some (certificate, _) => admitsKey terms.level certificate.publicKey.family
    | none => true
  if keyIsGood then
    some {
      terms
      verifies := c.verifyMode != .none
      trusted := c.trusted
      identity := c.clientCertificate
      defers := c.defersClientCertificate
      serverName := c.serverName.map Bytes.ofString
      alpn := Alpn.encode c.alpn
      wantsOcsp := c.requestOcsp
      tickets := !c.options.contains .noTicket }
  else none

/-! ### Servers -/

/-- What a server is willing to do. -/
structure Server where
  terms : Terms
  identity : X509.Certificate × X509.PrivateKey
  /-- Certificates sent after the server's own. -/
  chain : List X509.Certificate
  /-- Whether there are parameters for classic key exchange without curves. -/
  hasDh : Bool
  /-- Whether clients may negotiate anew. -/
  renegotiates : Bool
  tickets : Bool
  /-- How many tickets follow a full TLS 1.3 handshake. -/
  ticketCount : Nat
  maxEarlyData : UInt32
  requestsCertificate : Bool
  requiresCertificate : Bool
  /-- The authorities that are named to clients and trusted. -/
  clientAuthorities : List X509.Certificate
  alpn : Option (List Bytes)
  /-- Whether a client without a common protocol is turned away. -/
  alpnStrict : Bool
  ocsp : Option Bytes
  deriving Repr, DecidableEq

end SocketlessTls.Policy
