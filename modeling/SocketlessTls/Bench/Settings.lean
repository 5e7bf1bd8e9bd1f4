import SocketlessTls.Bench.Identities
import SocketlessTls.Config.Setter
import SocketlessTls.Connection.Query

/-!
# Configuring on the bench

A bench configures a client step by step. Most steps set something; some read a name or a number
first and report it if it is bad, some take a session that was kept, and some only ask.

* `SocketlessTls.Bench.Desk` – the configuration at hand, a kept copy, and kept sessions;
* `SocketlessTls.Bench.ConfigStep.run` – one step.
-/

namespace SocketlessTls.Bench

/-- A step of configuring. -/
inductive ConfigStep where
  | set (s : Setting)
  /-- Sets one version by name. -/
  | versionNamed (name : String)
  /-- Sets both ends of the version range by name. -/
  | rangeNamed (min max : String)
  /-- Sets the verification mode by number, read on its own first. -/
  | verifyNumbered (raw : Int)
  /-- Reads a session and sets it. -/
  | sessionDer (der : Bytes)
  /-- Sets a kept session. -/
  | keptSession (slot : Nat)
  /-- Asks for the configuration in short. -/
  | describe
  /-- Asks for the ciphers that would be offered. -/
  | ciphers
  /-- Keeps a copy of the configuration. -/
  | save
  /-- Goes back to the kept copy. -/
  | restore
  deriving Repr, DecidableEq

/-- What a step of configuring answers. -/
inductive ConfigReply where
  | done
  /-- A name or number did not read. -/
  | misread (e : ConfigError)
  | refused (e : TlsError)
  | text (s : String)
  | names (ss : List String)
  /-- The step makes no sense here. -/
  | senseless (what : String)
  /-- The program stopped. -/
  | aborted
  deriving Repr, DecidableEq

/-- What a bench holds while it configures. -/
structure Desk where
  config : Config
  kept : Config
  sessions : List Session
  objects : SessionObjects
  deriving Repr, DecidableEq

namespace Desk

/-- A desk with nothing on it. -/
def initial : Desk := ⟨.initial, .initial, [], .empty⟩

/-- Makes a setting. -/
def apply (d : Desk) (s : Setting) : ConfigReply × Desk :=
  let (result, config) := s.run Policy.screening d.config
  let reply := match result with
    | .ok () => .done
    | .error (.refused e) => .refused e
    | .error .aborted => .aborted
  (reply, { d with config })

end Desk

/-- Runs one step of configuring. -/
def ConfigStep.run {σ : Type} (E : Engine σ) (d : Desk) : ConfigStep → ConfigReply × Desk
  | set s => d.apply s
  | versionNamed name =>
    match Version.read name with
    | .ok v => d.apply (.version v)
    | .error e => (.misread e, d)
  | rangeNamed min max =>
    match Version.read min, Version.read max with
    | .ok lo, .ok hi => d.apply (.versionRange lo hi)
    | .error e, _ => (.misread e, d)
    | _, .error e => (.misread e, d)
  | verifyNumbered raw =>
    match VerifyMode.ofRaw raw with
    | .ok mode => d.apply (.verifyMode mode)
    | .error e => (.misread e, d)
  | sessionDer der =>
    match Session.ofDer? der d.objects with
    | some (s, objects) => { d with objects }.apply (.session s)
    | none => (.refused .engine, d)
  | keptSession slot =>
    match d.sessions[slot]? with
    | some s => d.apply (.session s)
    | none => (.senseless "slot", d)
  | describe => (.text d.config.text, d)
  | ciphers =>
    match Connection.ofConfig (σ := σ) d.config .engine with
    | .error e => (.refused e, d)
    | .ok c =>
      match c.cipherNames E with
      | .ok names => (.names names, d)
      | .error e => (.refused e, d)
  | save => (.done, { d with kept := d.config })
  | restore => (.done, { d with config := d.kept })

end SocketlessTls.Bench
