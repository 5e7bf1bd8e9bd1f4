import SocketlessTls.Config.Setter
import SocketlessTls.Connection.Basic

/-!
# Starting an engine, step by step

When a connection starts, its engine is told the configuration, one thing after another: first what
may be shared between connections, then what belongs to this one. Each step changes the engine or
fails, and the first that fails ends the start. The texts among them – three lists and the name of
the server – go to the engine as texts of its own kind, which end at the first NUL. A text with a
NUL in it cannot be put into that form, and then it is not the engine that refuses but the program
that stops.

An `SocketlessTls.Engine` is built in one piece, and knows nothing of the steps. The engine that is
built by the steps of a builder is `SocketlessTls.Engine.builtBy`.

* `SocketlessTls.Builder` – the engine's part in the steps;
* `SocketlessTls.Building` – steps of building an engine;
* `SocketlessTls.Builder.context`, `SocketlessTls.Builder.client` – what is shared, and what belongs
  to one connection;
* `SocketlessTls.Link.startStepwise` – a start in steps.
-/

namespace SocketlessTls

/-- The calls by which an engine is told a configuration. They change an engine that is being built;
those that give an option may fail. -/
structure Builder (σ : Type) where
  new? : Option σ
  minVersion? : Option Version → σ → Option σ
  maxVersion? : Option Version → σ → Option σ
  verifyMode : VerifyMode → σ → σ
  /-- Lets a write take a part of the data, and be repeated from another place. -/
  partialWrites : σ → σ
  options : Options → σ → σ
  cipherList? : String → σ → Option σ
  cipherSuites? : String → σ → Option σ
  sigalgs? : String → σ → Option σ
  alpn? : Bytes → σ → Option σ
  trust? : X509.Certificate → σ → Option σ
  certificate? : X509.Certificate → σ → Option σ
  privateKey? : X509.PrivateKey → σ → Option σ
  /-- Fails if the key that has been set does not belong to the certificate. -/
  checkKey? : σ → Option σ
  /-- Waits when the server asks for a client certificate. -/
  deferCertificate : σ → σ
  /-- The client's side of a connection, of what is shared. -/
  open? : σ → Option σ
  serverName? : String → σ → Option σ
  ocsp? : σ → Option σ
  session? : Session → σ → Option σ

/-- A builder that takes everything and keeps nothing of it. -/
def Builder.willing {σ : Type} (start : σ) : Builder σ where
  new? := some start
  minVersion? _ := some
  maxVersion? _ := some
  verifyMode _ s := s
  partialWrites s := s
  options _ s := s
  cipherList? _ := some
  cipherSuites? _ := some
  sigalgs? _ := some
  alpn? _ := some
  trust? _ := some
  certificate? _ := some
  privateKey? _ := some
  checkKey? := some
  deferCertificate s := s
  open? := some
  serverName? _ := some
  ocsp? := some
  session? _ := some

/-! ### Steps -/

/-- Steps of building an engine. They end with the engine, or early and without one. -/
abbrev Building (σ : Type) := StateT σ (Except Halted)

namespace Building

variable {σ α : Type}

/-- Tells the engine something. -/
def tell (f : σ → Option σ) : Building σ Unit := fun s =>
  match f s with
  | some s => .ok ((), s)
  | none => .error (.refused .engine)

/-- Tells the engine a text. -/
def hand (f : String → σ → Option σ) (text : String) : Building σ Unit :=
  if isEngineText text then tell (f text) else throw .aborted

/-- Does something with what has been set, if it has been. -/
def ifSet (value : Option α) (act : α → Building σ Unit) : Building σ Unit :=
  match value with
  | some a => act a
  | none => return

/-- Does something if a condition holds. -/
def inCase (holds : Bool) (act : Building σ Unit) : Building σ Unit := if holds then act else return

end Building

namespace Builder

open Building

variable {σ : Type} (B : Builder σ)

/-- Tells the engine which certificate to present, or to wait when it is asked for one. -/
def presentCertificate (c : Config) : Building σ Unit :=
  match c.clientCertificate with
  | some (cert, key) => do
    tell (B.certificate? cert)
    tell (B.privateKey? key)
    tell B.checkKey?
  | none => inCase c.reportCertificateRequest (modify B.deferCertificate)

/-- Tells the engine what may be shared between connections. -/
def context (c : Config) : Building σ Unit := do
  tell (B.minVersion? c.minVersion)
  tell (B.maxVersion? c.maxVersion)
  modify (B.verifyMode c.verifyMode)
  modify B.partialWrites
  inCase (c.options ≠ .empty) (modify (B.options c.options))
  ifSet c.cipherList (hand B.cipherList?)
  ifSet c.cipherSuites (hand B.cipherSuites?)
  ifSet c.sigalgs (hand B.sigalgs?)
  inCase (c.alpn ≠ []) (tell (B.alpn? (Alpn.encode c.alpn)))
  c.trusted.forM fun cert => tell (B.trust? cert)
  B.presentCertificate c
  tell B.open?

/-- Tells the engine the name of the server and the status that it is asked for. -/
def client (c : Config) : Building σ Unit := do
  ifSet c.serverName (hand B.serverName?)
  inCase c.requestOcsp (tell B.ocsp?)

/-- Gives the engine a session of its own to resume, if one has been set. -/
def resume (c : Config) (o : SessionObjects) : Building σ SessionObjects :=
  match Link.copySession? c.session o with
  | none => throw (.refused .engine)
  | some (session, o) => do
    ifSet session fun s => tell (B.session? s)
    return o

/-- An engine for a connection, all the steps through, and the session objects then. -/
def build (c : Config) (o : SessionObjects) : Except Halted (SessionObjects × σ) :=
  match B.new? with
  | none => .error (.refused .engine)
  | some s => (do B.context c; B.client c; B.resume c o).run s

end Builder

/-! ### Starting -/

/-- The state that steps end with, if they come to their end. -/
def Building.run? {σ : Type} (x : Building σ Unit) (s : σ) : Option σ :=
  match x.run s with
  | .ok ((), s) => some s
  | .error _ => none

open Building in
/-- An engine that is built by the steps of a builder, whatever it does afterwards. -/
def Engine.builtBy {σ : Type} (E : Engine σ) (B : Builder σ) : Engine σ :=
  { E with
    build? := fun c => B.new?.bind (B.context c).run?
    prepare? := fun c session =>
      (do B.client c; ifSet session fun s => tell (B.session? s) : Building σ Unit).run? }

/-- Starts the engine of a connection in steps. What is in the way of a start can stop it before the
engine takes the endpoint, and then nothing has changed. -/
def Link.startStepwise {σ : Type} (B : Builder σ) (E : Engine σ) (l : Link σ) :
    Except Halted Unit × Link σ :=
  match l.connection.engine with
  | .idle =>
    match B.build l.connection.config l.objects with
    | .error e => (.error e, l)
    | .ok (objects, s) =>
      match E.attach? s with
      | none =>
        (.error (.refused .engine),
          { connection := { l.connection with engine := .detached }
            pipe := l.pipe.release .engine, objects })
      | some s =>
        (.ok (), { l with
          connection := { l.connection with engine := .running s, state := .handshaking }
          objects })
  | _ => (.error (.refused (l.connection.invalidState "start")), l)

end SocketlessTls
