import SocketlessTls.Transparent.Client.Script
import SocketlessTls.Transparent.Operation
import SocketlessTls.Transparent.Status

/-!
# A transparent engine

An engine whose records and messages have the shape and the size of real ones but keep nothing
secret. It is a client machine with its script, seen through the operations that a connection asks
for.

* `SocketlessTls.Transparent.engine` – the engine.
-/

namespace SocketlessTls.Transparent

/-- A client machine. -/
abbrev ClientMachine := Machine ClientPart

namespace ClientMachine

/-- Declares the session at hand unfit for resumption, if there is one. -/
def retireSession (m : ClientMachine) : Call Unit :=
  match m.own.session with
  | some s => .retireObject s.object (.done ())
  | none => .done ()

/-- Runs an act as one call. A session that was spoilt on the way is not resumed again. -/
def perform {α : Type} (a : ClientAct α) (m : ClientMachine) :
    Call (RawOutcome α × ClientMachine) := do
  let (result, m) ← a.perform m
  if m.spoilt then
    retireSession m
    return (result, { m with spoilt := false })
  else return (result, m)

/-- A machine for a configuration. -/
def ofConfig? (c : Config) : Option ClientMachine :=
  (Policy.Client.ofConfig? c).map fun policy => Machine.initial .client true (.initial policy)

/-- The machine with a session to resume. -/
def withSession (m : ClientMachine) : Option Session → ClientMachine
  | none => m
  | some s =>
    { m with own := { m.own with session := some s, verifyCode := s.content.verifyResult } }

/-- Whether the session at hand allows early data. -/
def allowsEarlyData (m : ClientMachine) : Bool :=
  m.own.content?.any fun s => s.maxEarlyData ≠ 0

/-- Schedules a new handshake, which TLS 1.3 does not have. -/
def renegotiate (m : ClientMachine) : Bool × ClientMachine :=
  if m.isModern then (false, m)
  else
    (true, { m with
      renegotiating := true
      renegotiationDue := true
      own := { m.own with startsAfresh := true } })

/-- Gives the machine up. A session whose connection was not closed is not resumed again. -/
def discard (m : ClientMachine) : Call Unit :=
  if !m.sentShutdown && !m.receivedShutdown && !m.inInit && !m.isBefore then retireSession m
  else .done ()

end ClientMachine

open ClientMachine in
/-- The engine. -/
def engine : Engine ClientMachine where
  build? := ofConfig?
  prepare? _ session m := some (m.withSession session)
  attach? := some
  handshake := perform (Act.doHandshake ClientAct.script)
  write data := perform (Act.writeData ClientAct.script data)
  writeEarlyData data := perform (Act.writeEarly ClientAct.script allowsEarlyData data)
  read max := perform (Act.readData ClientAct.script max)
  shutdown := perform do return if ← Act.close ClientAct.script then .received else .sent
  renegotiate := renegotiate
  discard := discard
  version := Machine.protocolVersion
  pendingCipher m := m.suite.map Suite.cipher
  currentCipher m := m.own.sessionSuite?.map Suite.cipher
  peerChain m := m.own.peerChain
  peerCertificate m := m.own.content?.bind (·.peer)
  clientCaNames m := m.own.authorities
  verifyResult m := ⟨m.own.verifyCode, Verification.words m.own.verifyCode⟩
  signatureDigest m := (m.own.peerScheme.bind (·.digest)).map Policy.DigestKind.name
  signatureType m := m.own.peerScheme.map fun x => x.kind.name
  session m := m.own.session
  sessionReused m := m.hit
  ocspResponse m := m.own.ocsp
  compression _ := none
  alpnProtocol m := m.own.alpn
  ephemeralKey m := m.own.ephemeral
  secureRenegotiation m := m.own.isSecure
  earlyDataStatus m :=
    match m.earlyAnswer with
    | .notSent => 0
    | .rejected => 1
    | .accepted => 2
  pendingBytes := Machine.pendingBytes
  stateText := Machine.stateText
  cipherNames m := (m.own.policy.terms.modern ++ m.own.policy.terms.classic).map (·.name)

end SocketlessTls.Transparent
