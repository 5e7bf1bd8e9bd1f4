import SocketlessTls.Config.Basic

/-!
# Settings, step by step

A setting is made by a *setter*, which goes through its checks and its assignments one after another
on the configuration at hand. A check that fails stops it where it is, and what it has assigned by
then stays assigned: nothing is taken back.

* `SocketlessTls.Setter` – such a sequence of steps;
* `SocketlessTls.Setting.setter` – the sequence for each setting;
* `SocketlessTls.Setting.run` – making a setting on a configuration;
* `SocketlessTls.Config.afterTrials` – one after another, some of which fail.
-/

namespace SocketlessTls

/-- Why a setter stopped before its end. -/
inductive Halted where
  | refused (e : TlsError)
  /-- A text could not be handed to the engine, and the program stopped. -/
  | aborted
  deriving Repr, DecidableEq

/-- Checks and assignments, one after another. -/
abbrev Setter := ExceptT Halted (StateM Config)

namespace Setter

/-- Goes through the steps on a configuration: how that ended, and the configuration then. -/
def on {α : Type} (x : Setter α) (c : Config) : Except Halted α × Config := x.run.run c

/-- Changes the configuration. -/
def assign (f : Config → Config) : Setter Unit := modify f

/-- Stops because the setting is invalid. -/
def invalid {α : Type} (e : ConfigError) : Setter α := throw (.refused (.configuration e))

/-- Stops if there is anything wrong. -/
def noFault : Option ConfigError → Setter Unit
  | some e => invalid e
  | none => return

/-- Stops unless a condition holds. -/
def check (holds : Bool) (e : ConfigError) : Setter Unit := noFault (if holds then none else some e)

/-- Makes a context of the engine and hands it a list to screen. -/
def screen (sc : Screening) (accepts : String → Bool) (list : String) (e : ConfigError) :
    Setter Unit :=
  if sc.hasContext then
    if isEngineText list then check (accepts list) e else throw .aborted
  else throw (.refused .engine)

/-- Sets a client certificate with its key. -/
def clientCertificate (sc : Screening) (cert : X509.Certificate) (key : X509.PrivateKey) :
    Setter Unit :=
  match sc.publicKey? cert with
  | none => throw (.refused .engine)
  | some publicKey => do
    check (sc.keysMatch key publicKey) (.certificate "private key does not match certificate")
    assign fun c => { c with clientCertificate := some (cert, key) }

end Setter

open Setter in
/-- The steps of a setting. -/
def Setting.setter (sc : Screening) : Setting → Setter Unit
  | version v => do
    assign fun c => { c with minVersion := some v }
    assign fun c => { c with maxVersion := some v }
  | versionRange min max => do
    check (min ≤ max) (.invalidVersionRange min.name max.name)
    assign fun c => { c with minVersion := some min }
    assign fun c => { c with maxVersion := some max }
  | verifyMode mode => assign fun c => { c with verifyMode := mode }
  | verifyModeRaw raw =>
    match VerifyMode.ofRaw raw with
    | .ok mode => assign fun c => { c with verifyMode := mode }
    | .error e => invalid e
  | serverName name => do
    check (ServerName.isValid name) (.invalidServerName name)
    assign fun c => { c with serverName := some name }
  | cipherList list => do
    screen sc sc.cipherList list (.invalidCipherList list)
    assign fun c => { c with cipherList := some list }
  | cipherSuites list => do
    screen sc sc.cipherSuites list (.invalidCipherSuites list)
    assign fun c => { c with cipherSuites := some list }
  | sigalgs list => do
    screen sc sc.sigalgs list (.invalidSigalgs list)
    assign fun c => { c with sigalgs := some list }
  | options o => assign fun c => { c with options := c.options.union o }
  | disableTickets => assign fun c => { c with options := c.options.union .noTicket }
  | session s => assign fun c => { c with session := some s }
  | statusType type => do
    check (type = statusTypeOcsp) (.invalidStatusType type)
    assign fun c => { c with requestOcsp := true }
  | requestOcsp => assign fun c => { c with requestOcsp := true }
  | alpn protocols => do
    noFault (Alpn.check protocols)
    assign fun c => { c with alpn := protocols }
  | trust cert => assign fun c => { c with trusted := c.trusted ++ [cert] }
  | clientCertificate cert key => Setter.clientCertificate sc cert key
  | clientCertificatePem text =>
    match sc.certificateOfPem? text with
    | none => invalid (.certificate s!"Failed to load certificate: {engineReport}")
    | some cert =>
      match sc.keyOfPem? text with
      | none => invalid (.certificate s!"Failed to load private key: {engineReport}")
      | some key => Setter.clientCertificate sc cert key
  | reportCertificateRequest on => assign fun c => { c with reportCertificateRequest := on }
  | captureMode mode => assign fun c => { c with captureMode := mode }

/-- Makes a setting on a configuration: how that ended, and the configuration then. -/
def Setting.run (sc : Screening) (s : Setting) (c : Config) : Except Halted Unit × Config :=
  (s.setter sc).on c

/-- A setting that is tried, and whether the engine can make a context for it then. It may at one
time and not at another. -/
structure Trial where
  setting : Setting
  hasContext : Bool
  deriving Repr, DecidableEq

/-- Tries a setting on a configuration: how that ended, and the configuration then. -/
def Trial.run (sc : Screening) (t : Trial) (c : Config) : Except Halted Unit × Config :=
  t.setting.run { sc with hasContext := t.hasContext } c

/-- The configuration that a sequence of trials leaves. -/
def Config.afterTrials (sc : Screening) (c : Config) (trials : List Trial) : Config :=
  trials.foldl (fun c t => (t.run sc c).2) c

end SocketlessTls
