import SocketlessTls.Connection.Query
import SocketlessTls.Bench.Reference
import SocketlessTls.Bench.Settings
import SocketlessTls.Transparent.Engine

/-!
# Scenarios

A scenario is a client connection, its pipe, and what stands on the far end of the pipe: a reference
server, or nobody but whoever holds the raw endpoint. Its steps are what either side does. Several
connections may follow each other; what outlives them are the sessions that the server keeps, and
those that were saved from the client.

* `SocketlessTls.Bench.Step`, `SocketlessTls.Bench.Reply` – what can be done, and the answers;
* `SocketlessTls.Bench.Scenario.run` – one step.
-/

namespace SocketlessTls.Bench

open Transparent

/-! ### Steps and replies -/

/-- How a connection is to be made. -/
structure ConnectPlan where
  config : List ConfigStep
  capacity : Option Nat
  endpoint : Option Side
  /-- Whether the server takes early data before it answers. -/
  takesEarly : Bool

/-- A step of a scenario. -/
inductive Step where
  | connect (p : ConnectPlan)
  | advance
  /-- Lets client and server take turns until both are done. -/
  | handshake
  | write (data : Bytes)
  | read (max : Nat)
  | readInto (buffer : Bytes)
  | writeEarlyData (data : Bytes)
  | shutdown
  | renegotiate
  | ask (q : Question)
  | askAll (qs : List Question)
  /-- Saves the session of the connection. -/
  | saveSession
  /-- Saves a saved session again, through its written form. -/
  | recodeSession (slot : Nat)
  /-- Changes the configuration of the connection. -/
  | configure (c : ConfigStep)
  | showConfig
  | describe
  /-- Gives up the far end, with the server on it. -/
  | releaseCaller
  | dropClient
  | serverStep
  | serverRead
  | serverWrite (data : Bytes)
  | serverShutdown
  | serverInfo
  | callerWrite (data : Bytes)
  /-- Takes everything that waits at the raw endpoint. -/
  | callerDrain

/-- How a handshake in turns went. -/
structure HandshakeReport where
  client : PollResult Unit
  server : Progress
  /-- How often the client was advanced; not told if the pipe was made to measure. -/
  rounds : Option Nat

/-- How a step is answered. -/
inductive Reply where
  /-- The step makes no sense here. -/
  | senseless (what : String)
  | refused (e : TlsError)
  | connected (replies : List ConfigReply)
  | moved (p : Poll Unit)
  | handshaken (r : HandshakeReport)
  | counted (p : Poll Nat)
  | data (p : Poll Bytes)
  | filled (p : Poll Nat) (buffer : Bytes)
  | closing (p : Poll ShutdownStatus)
  | done
  | found (f : Finding)
  | foundAll (fs : List (Question × Except TlsError Finding))
  | saved (s : Option Session)
  | recoded (keepsId : Bool) (s : Session)
  | configured (r : ConfigReply) (c : Config)
  | config (c : Config)
  | text (s : String)
  | released
  | dropped
  | progress (p : Progress)
  | serverData (data : Bytes) (reason : ReadEnd)
  | serverSent (size : Nat) (reason : WriteEnd)
  | serverClosing (c : Closing)
  | serverFacts (f : ServerFacts)
  | piped (size : Nat)
  | blocked (e : PipeError)
  | drained (data : Bytes)

/-- The answer to a poll, or its error. -/
def Reply.ofPoll {α : Type} (reply : Poll α → Reply) : PollResult α → Reply
  | .ok p => reply p
  | .error e => .refused e

/-! ### Scenarios -/

/-- What stands on the far end of a pipe. -/
inductive FarEnd where
  | gone
  | raw
  | server (r : Reference)

/-- A scenario. -/
structure Scenario where
  /-- What the server is willing to do, if there is one. -/
  policy : Option Policy.Server
  client : Option (Connection ClientMachine)
  pipe : Pipe
  objects : SessionObjects
  farEnd : FarEnd
  /-- The sessions that the server keeps, as long as no server runs. -/
  store : SessionStore
  /-- The sessions saved from the client. -/
  saved : List Session
  /-- Whether the pipe was made to measure. -/
  isFitted : Bool

namespace Scenario

/-- A scenario before the first connection. -/
def initial (policy : Option Policy.Server) : Scenario where
  policy := policy
  client := none
  pipe := .default
  objects := .empty
  farEnd := .gone
  store := .empty
  saved := []
  isFitted := false

/-- What the two ends act on. -/
def world (s : Scenario) : Call.World := ⟨s.pipe, s.objects⟩

/-- The scenario with something else to act on. -/
def withWorld (s : Scenario) (w : Call.World) : Scenario :=
  { s with pipe := w.pipe, objects := w.objects }

/-- The scenario with its client and what is around it in another state. -/
def withLink (s : Scenario) (l : Link ClientMachine) : Scenario :=
  { s with client := some l.connection, pipe := l.pipe, objects := l.objects }

/-- Where the client stands. -/
def state? (s : Scenario) : Option State := s.client.map (·.state)

/-! ### The client -/

/-- Lets the client do something. -/
def withClient (s : Scenario) (f : Link ClientMachine → Reply × Link ClientMachine) :
    Reply × Scenario :=
  match s.client with
  | none => (.senseless "no connection", s)
  | some connection =>
    let (reply, l) := f { connection, pipe := s.pipe, objects := s.objects }
    (reply, s.withLink l)

/-- Asks the client something. -/
def aboutClient (s : Scenario) (f : Connection ClientMachine → Reply) : Reply × Scenario :=
  match s.client with
  | none => (.senseless "no connection", s)
  | some connection => (f connection, s)

/-- Gives the client up. -/
def dropClient (s : Scenario) : Scenario :=
  match s.client with
  | none => s
  | some connection =>
    let l : Link ClientMachine := { connection, pipe := s.pipe, objects := s.objects }
    let (pipe, objects) := l.discard engine
    { s with client := none, pipe, objects }

/-- A desk to configure at. -/
def desk (s : Scenario) (config : Config) : Desk :=
  { config, kept := .initial, sessions := s.saved, objects := s.objects }

/-- Saves the session of the client. -/
def saveSession (s : Scenario) : Reply × Scenario :=
  match s.client with
  | none => (.senseless "no connection", s)
  | some connection =>
    match connection.session engine s.objects with
    | .error e => (.refused e, s)
    | .ok (none, objects) => (.saved none, { s with objects })
    | .ok (some session, objects) =>
      (.saved (some session), { s with objects, saved := s.saved ++ [session] })

/-- Saves a saved session again, through its written form. -/
def recodeSession (s : Scenario) (slot : Nat) : Reply × Scenario :=
  match s.saved[slot]? with
  | none => (.senseless "slot", s)
  | some old =>
    match old.copy? s.objects with
    | none => (.refused .engine, s)
    | some (session, objects) =>
      (.recoded (session.id == old.id) session,
        { s with objects, saved := s.saved ++ [session] })

/-- Changes the configuration of the client. -/
def configure (s : Scenario) (step : ConfigStep) : Reply × Scenario :=
  match s.client with
  | none => (.senseless "no connection", s)
  | some connection =>
    match connection.configMut with
    | .error e => (.refused e, s)
    | .ok config =>
      let (reply, d) := step.run engine (s.desk config)
      (.configured reply d.config,
        { s with client := some (connection.withConfig d.config), objects := d.objects })

/-! ### The far end -/

/-- Lets the server do something. -/
def withServer {α : Type} (s : Scenario) (reply : α → Reply)
    (f : Reference → Call.World → α × Reference × Call.World) : Reply × Scenario :=
  match s.farEnd with
  | .server r =>
    let (a, r, w) := f r s.world
    (reply a, { s.withWorld w with farEnd := .server r })
  | _ => (.senseless "no server", s)

/-- Gives up whoever stands on the far end; the pipe stays as it is. -/
def dropFarEnd (s : Scenario) : Scenario :=
  match s.farEnd with
  | .server r => { s with farEnd := .gone, store := r.discard }
  | _ => { s with farEnd := .gone }

/-- Uses the raw endpoint. -/
def withRaw (s : Scenario) (f : Pipe → Reply × Pipe) : Reply × Scenario :=
  match s.farEnd with
  | .raw =>
    let (reply, pipe) := f s.pipe
    (reply, { s with pipe })
  | _ => (.senseless "no raw caller", s)

/-- Takes everything that waits at the raw endpoint. -/
def drain (p : Pipe) : Reply × Pipe :=
  match p.read .caller (p.pending .caller) with
  | (.ok data, p) => (.drained data, p)
  | (.error _, p) => (.drained [], p)

/-! ### Connecting -/

/-- Runs the steps of configuring one after another. -/
def configureAll (d : Desk) : List ConfigStep → List ConfigReply × Desk
  | [] => ([], d)
  | step :: rest =>
    let (reply, d) := step.run engine d
    let (replies, d) := configureAll d rest
    (reply :: replies, d)

/-- Makes a new connection, to a new server if there is one to be. Only when it is made, the old
client is given up, and then what stood on the far end. -/
def connect (s : Scenario) (p : ConnectPlan) : Reply × Scenario :=
  let (replies, d) := configureAll (s.desk { Config.initial with verifyMode := .none }) p.config
  let s := { s with objects := d.objects }
  match Connection.ofConfig (σ := ClientMachine) d.config (p.endpoint.getD .engine) with
  | .error e => (.refused e, s)
  | .ok connection =>
    let s := s.dropClient.dropFarEnd
    let farEnd := match s.policy with
      | some policy => .server (.initial policy s.store p.takesEarly)
      | none => .raw
    (.connected replies, { s with
      client := some connection
      pipe := (p.capacity.map Pipe.withCapacity).getD .default
      farEnd
      isFitted := p.capacity.isSome || p.endpoint.isSome })

/-! ### Handshakes in turns -/

/-- The most rounds of a handshake in turns. -/
def roundBound : Nat := 2000

/-- Lets client and server take turns for at most `fuel` rounds more. Once the client is done, it
makes room in a pipe that was made to measure by reading a little. -/
def takeTurns (isFitted : Bool) (l : Link ClientMachine) (r : Reference) (count : Nat)
    (last : PollResult Unit) (progress : Progress) :
    (fuel : Nat) → HandshakeReport × Link ClientMachine × Reference
  | 0 => (⟨last, progress, some count⟩, l, r)
  | fuel + 1 =>
    let isDone := match last with
      | .ok p => p.isReady
      | .error _ => false
    let (last, count, l) :=
      if isDone then (last, count, l)
      else
        let (result, l) := l.advanceHandshake engine
        (result, count + 1, l)
    match last with
    | .error e => (⟨.error e, progress, some count⟩, l, r)
    | .ok p =>
      let l := if p.isReady && isFitted then (l.read engine 64 true).2 else l
      let (progress, r, w) := r.step ⟨l.pipe, l.objects⟩
      let l := { l with pipe := w.pipe, objects := w.objects }
      if p.isReady && progress ≠ .pending then (⟨last, progress, some count⟩, l, r)
      else takeTurns isFitted l r count last progress fuel

/-- Lets client and server take turns until both are done. -/
def handshake (s : Scenario) : Reply × Scenario :=
  match s.farEnd, s.client with
  | .server r, some connection =>
    let l : Link ClientMachine := { connection, pipe := s.pipe, objects := s.objects }
    let (report, l, r) :=
      takeTurns s.isFitted l r 0 (.ok (.wouldBlock .read)) .pending roundBound
    let rounds := if s.isFitted then none else report.rounds
    (.handshaken { report with rounds }, { s.withLink l with farEnd := .server r })
  | .server _, none => (.senseless "no connection", s)
  | _, _ => (.senseless "no server", s)

/-! ### Running -/

/-- Runs one step. -/
def run (s : Scenario) : Step → Reply × Scenario
  | .connect p => s.connect p
  | .advance => s.withClient fun l =>
    let (result, l) := l.advanceHandshake engine
    (.ofPoll .moved result, l)
  | .handshake => s.handshake
  | .write data => s.withClient fun l =>
    let (result, l) := l.write engine data
    (.ofPoll .counted result, l)
  | .read max => s.withClient fun l =>
    let (result, l) := l.read engine max true
    (.ofPoll .data result, l)
  | .readInto buffer => s.withClient fun l =>
    let (result, buffer, l) := l.readInto engine buffer
    (.ofPoll (.filled · buffer) result, l)
  | .writeEarlyData data => s.withClient fun l =>
    let (result, l) := l.writeEarlyData engine data
    (.ofPoll .counted result, l)
  | .shutdown => s.withClient fun l =>
    let (result, l) := l.shutdown engine
    (.ofPoll .closing result, l)
  | .renegotiate => s.withClient fun l =>
    match l.renegotiate engine with
    | (.ok (), l) => (.done, l)
    | (.error e, l) => (.refused e, l)
  | .ask q => s.aboutClient fun c =>
    match q.answer engine c s.objects with
    | .ok f => .found f
    | .error e => .refused e
  | .askAll qs => s.aboutClient fun c =>
    .foundAll (qs.map fun q => (q, q.answer engine c s.objects))
  | .saveSession => s.saveSession
  | .recodeSession slot => s.recodeSession slot
  | .configure step => s.configure step
  | .showConfig => s.aboutClient fun c => .config c.config
  | .describe => s.aboutClient fun c => .text (c.text engine)
  | .releaseCaller => (.released, { s.dropFarEnd with pipe := s.pipe.release .caller })
  | .dropClient => (.dropped, s.dropClient)
  | .serverStep => s.withServer .progress Reference.step
  | .serverRead => s.withServer (fun (data, reason) => .serverData data reason) fun r w =>
    let (data, reason, r, w) := r.readAll w
    ((data, reason), r, w)
  | .serverWrite data =>
    let size (reason : WriteEnd) := if reason = .written then data.length else 0
    s.withServer (fun reason => .serverSent (size reason) reason) (Reference.write data)
  | .serverShutdown => s.withServer .serverClosing Reference.close
  | .serverInfo => s.withServer .serverFacts fun r w => (r.facts, r, w)
  | .callerWrite data => s.withRaw fun p =>
    match p.write .caller data with
    | (.ok n, p) => (.piped n, p)
    | (.error e, p) => (.blocked e, p)
  | .callerDrain => s.withRaw drain

/-- Runs steps one after another: each reply, and where the client stands then. -/
def runAll (s : Scenario) : List Step → List (Reply × Option State)
  | [] => []
  | step :: rest =>
    let (reply, s) := s.run step
    (reply, s.state?) :: s.runAll rest

end Scenario

end SocketlessTls.Bench
