import SocketlessTls.Transparent.Server.Flight

/-!
# A server's handshake

The order of a server's messages, what it does before and after each, and which messages of the
client may come when.

* `SocketlessTls.Transparent.ServerAct.script` – the script.
-/

namespace SocketlessTls.Transparent

namespace ServerAct

/-! ### The order of messages -/

/-- What comes before the first message. -/
def beginHandshake : ServerAct Unit := do
  let terms := (← part).policy.terms
  match terms.versions.getLast? with
  | none => Act.failWith AlertCode.protocolVersion .noProtocolsAvailable
  | some v =>
    if !(terms.modern ++ terms.classic).any (isUsableIn v) then
      Act.failWith AlertCode.handshakeFailure .noCiphersAvailable
  update fun c => { c with certificateRequested := false }

/-- Moves on to another place. -/
def moveTo (h : HandState) : ServerAct Turn := do
  Act.setHand h
  return .write

/-- Moves on to sending a message. -/
def send (t : MessageType) : ServerAct Turn := moveTo (.sent t)

/-- The next message to write in TLS 1.3. -/
def chooseModern : ServerAct Turn := do
  let m ← get
  let c := m.own
  let presentOneself : ServerAct Turn :=
    if m.retry = .pending then moveTo .earlyData else send .encryptedExtensions
  match m.hand with
  | .over => return .read
  | .received .clientHello => send .serverHello
  | .sent .serverHello => if m.retry ≠ .complete then send .changeCipher else presentOneself
  | .sent .changeCipher => presentOneself
  | .sent .encryptedExtensions =>
    send (if m.hit then .finished
      else if c.policy.requestsCertificate then .certificateRequest else .certificate)
  | .sent .certificateRequest => send .certificate
  | .sent .certificate => send .certificateVerify
  | .sent .certificateVerify => send .finished
  | .sent .finished => moveTo .earlyData
  | .earlyData => return .read
  | .received .finished =>
    if c.ticketExpected && c.ticketsSent < c.policy.ticketCount then send .newSessionTicket
    else moveTo .over
  | .sent .newSessionTicket =>
    if m.hit || c.policy.ticketCount ≤ c.ticketsSent then moveTo .over
    else return .write
  | _ => Act.failWith AlertCode.internalError .internalError

/-- The next message to write before TLS 1.3, or before the version is settled. -/
def chooseClassic : ServerAct Turn := do
  let m ← get
  let c := m.own
  let ask : ServerAct Turn :=
    send (if c.policy.requestsCertificate then .certificateRequest else .serverHelloDone)
  let shareOrAsk : ServerAct Turn := do
    if hasServerShare (← Act.chosenSuite) then send .serverKeyExchange else ask
  let ticketOrChange : ServerAct Turn :=
    send (if c.ticketExpected then .newSessionTicket else .changeCipher)
  match m.hand with
  | .before => return .read
  | .over =>
    beginHandshake
    return .read
  | .received .clientHello =>
    if !m.renegotiating && !m.isFirstHandshake then moveTo .over else send .serverHello
  | .sent .serverHello => if m.hit then ticketOrChange else send .certificate
  | .sent .certificate => if c.staple.isSome then send .certificateStatus else shareOrAsk
  | .sent .certificateStatus => shareOrAsk
  | .sent .serverKeyExchange => ask
  | .sent .certificateRequest => send .serverHelloDone
  | .sent .serverHelloDone => return .read
  | .received .finished => if m.hit then moveTo .over else ticketOrChange
  | .sent .newSessionTicket => send .changeCipher
  | .sent .changeCipher => send .finished
  | .sent .finished => if m.hit then return .read else moveTo .over
  | _ => Act.failWith AlertCode.internalError .internalError

/-- The next message to write. -/
def choose : ServerAct Turn := do if (← get).isModern then chooseModern else chooseClassic

/-! ### Writing -/

/-- What is over with a handshake; before TLS 1.3 the session is kept now. -/
def conclude : ServerAct Unit := do
  update fun c => { c with ticketExpected := false, startsAfresh := false }
  if !(← get).isModern && !(← get).hit then keepSession

/-- What is done before a message is written. -/
def before : ServerAct Work := do
  let m ← get
  match m.hand with
  | .sent .newSessionTicket =>
    if m.isModern && m.own.ticketsSent = 0 then Act.windUp false .go conclude else return .go
  | .sent .changeCipher =>
    if !m.isModern then
      let suite ← Act.chosenSuite
      updateSession fun s => { s with suite := suite.id, secret := sessionSecret }
    return .go
  | .earlyData => if m.early = .accepting then Act.windUp true .over conclude else return .go
  | .over => Act.windUp true .over conclude
  | _ => return .go

/-- The message to write. -/
def compose : ServerAct (Option (ContentType × Bytes)) := do
  match (← get).hand with
  | .sent .serverHello => hello
  | .sent .changeCipher => return Act.changeNotice
  | .sent .encryptedExtensions => encryptedExtensions
  | .sent .certificate => certificates
  | .sent .certificateStatus =>
    return Act.message .certificateStatus (stapleBody ((← part).staple.getD []))
  | .sent .serverKeyExchange => share
  | .sent .certificateRequest => certificateRequest
  | .sent .serverHelloDone => return Act.message .serverHelloDone []
  | .sent .certificateVerify => proof
  | .sent .newSessionTicket => ticket
  | .sent .finished => lastMessage
  | _ => return none

/-- Changes the keys after the greeting in TLS 1.3. Until the client is heard of again, it may
send alerts in the clear. -/
def changeModernKeys : ServerAct Unit := do
  let suite ← Act.chosenSuite
  updateSession fun s => { s with suite := suite.id }
  let p ← Act.modernProtection .handshake
  Act.protectWriting p
  if (← get).earlyAnswer ≠ .accepted then Act.protectReading p
  modify fun m => { m with plainAlerts := true }

/-- What is done after a message was written. -/
def after : ServerAct Work := do
  let m ← get
  match m.hand with
  | .sent .serverHello => if m.isModern && m.retry = .complete then changeModernKeys
  | .sent .changeCipher =>
    if m.retry = .pending then Act.flush
    else if m.isModern then changeModernKeys
    else Act.protectWriting (← Act.classicProtection)
  | .sent .serverHelloDone => Act.flush
  | .sent .finished =>
    Act.flush
    if m.isModern then Act.protectWriting (← Act.modernProtection .application)
  | .sent .newSessionTicket => if m.isModern then Act.flush
  | _ => pure ()
  return .go

/-! ### Reading -/

/-- Whether a message may come here in TLS 1.3. -/
def mayFollowModern (m : Machine ServerPart) (t : MessageType) : Bool :=
  let first := t = if m.own.certificateRequested then .certificate else .finished
  match m.hand with
  | .earlyData =>
    if m.retry = .pending then t = .clientHello
    else if m.earlyAnswer = .accepted then t = .endOfEarlyData
    else first
  | .received .endOfEarlyData => first
  | .received .certificate =>
    t = if m.own.clientCertificate?.isSome then .certificateVerify else .finished
  | .received .certificateVerify => t = .finished
  | _ => false

/-- Whether a message may come here before TLS 1.3. -/
def mayFollowClassic (m : Machine ServerPart) (t : MessageType) : Bool :=
  let c := m.own
  match m.hand with
  | .before | .over => t = .clientHello
  | .sent .serverHelloDone =>
    t = if c.certificateRequested then .certificate else .clientKeyExchange
  | .received .certificate => t = .clientKeyExchange
  | .received .clientKeyExchange =>
    t = if c.clientCertificate?.isSome then .certificateVerify else .changeCipher
  | .received .certificateVerify => t = .changeCipher
  | .sent .finished => t = .changeCipher
  | .received .changeCipher => t = .finished
  | _ => false

/-- Moves on to a message that has come, if it may come here. -/
def admits (t : MessageType) : ServerAct Bool := do
  let m ← get
  let fits := if m.isModern then mayFollowModern m t else mayFollowClassic m t
  if fits then Act.setHand (.received t)
  return fits

/-- Deals with a message. -/
def process (body : Bytes) : ServerAct Reading := do
  match (← get).hand with
  | .received .clientHello => clientHello body
  | .received .endOfEarlyData => endOfEarlyData
  | .received .certificate => clientCertificate body
  | .received .certificateVerify => clientProof body
  | .received .changeCipher => changeCipher
  | .received .finished => finished body
  | _ => return .more

/-- The script of a server. -/
def script : Script ServerPart where
  begin := beginHandshake
  choose := choose
  before := before
  compose := compose
  after := after
  admits := admits
  limit _ := 131396
  process := process
  afterRead := return .more

end ServerAct

end SocketlessTls.Transparent
