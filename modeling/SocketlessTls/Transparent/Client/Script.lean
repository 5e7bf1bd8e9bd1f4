import SocketlessTls.Transparent.Client.Flight

/-!
# A client's handshake

The order of a client's messages, what it writes in each, and what it does before and after. Until
the server has greeted, a client that sends early data goes on as if TLS 1.3 had been agreed on.

* `SocketlessTls.Transparent.ClientAct.script` – the script.
-/

namespace SocketlessTls.Transparent

namespace ClientAct

/-! ### The order of messages -/

/-- Moves on to another place. -/
def moveTo (h : HandState) : ClientAct Turn := do
  Act.setHand h
  return .write

/-- Moves on to sending a message. -/
def send (t : MessageType) : ClientAct Turn := moveTo (.sent t)

/-- Moves on to the client's certificate if there was a request, and else to its last message. -/
def sendOwnPart : ClientAct Turn := do
  send (if (← part).answer = .unasked then .finished else .certificate)

/-- The next message to write in TLS 1.3. -/
def chooseModern : ClientAct Turn := do
  let m ← get
  match m.hand with
  | .received .finished =>
    if m.early = .writeRetry || m.early = .finishedWriting then moveTo .pendingEarlyDataEnd
    else if m.retry = .none then send .changeCipher
    else sendOwnPart
  | .pendingEarlyDataEnd =>
    if m.earlyAnswer = .accepted then send .endOfEarlyData else sendOwnPart
  | .sent .endOfEarlyData | .sent .changeCipher => sendOwnPart
  | .sent .certificate =>
    send (if m.own.answer = .identity then .certificateVerify else .finished)
  | .sent .certificateVerify => send .finished
  | .received .newSessionTicket | .sent .finished => moveTo .over
  | .over => return .read
  | _ => Act.failWith AlertCode.internalError .internalError

/-- The next message to write before TLS 1.3, or before the version is settled. -/
def chooseClassic : ClientAct Turn := do
  let m ← get
  match m.hand with
  | .over => if m.renegotiating then send .clientHello else return .read
  | .before => send .clientHello
  | .sent .clientHello => if m.early = .connecting then send .changeCipher else return .read
  | .received .serverHello =>
    send (if m.early = .finishedWriting then .clientHello else .changeCipher)
  | .earlyData => return .read
  | .received .serverHelloDone =>
    send (if m.own.answer = .unasked then .clientKeyExchange else .certificate)
  | .sent .certificate => send .clientKeyExchange
  | .sent .clientKeyExchange =>
    send (if m.own.answer = .identity then .certificateVerify else .changeCipher)
  | .sent .certificateVerify => send .changeCipher
  | .sent .changeCipher =>
    if m.retry = .pending then send .clientHello
    else if m.early = .connecting then moveTo .earlyData
    else send .finished
  | .sent .finished => if m.hit then moveTo .over else return .read
  | .received .finished => if m.hit then send .changeCipher else moveTo .over
  | .received .helloRequest => moveTo .over
  | _ => Act.failWith AlertCode.internalError .internalError

/-- The next message to write. -/
def choose : ClientAct Turn := do if (← get).isModern then chooseModern else chooseClassic

/-! ### Writing -/

/-- What is over with a handshake. -/
def conclude : ClientAct Unit :=
  update fun c => { c with ticketExpected := false, startsAfresh := false }

/-- What is done before a message is written. -/
def before : ClientAct Work := do
  let m ← get
  match m.hand with
  | .sent .clientHello =>
    modify fun m => { m with sentShutdown := false, receivedShutdown := false }
    return .go
  | .pendingEarlyDataEnd =>
    if m.early = .finishedWriting || m.early = .none then return .go
    else Act.windUp false .over conclude
  | .earlyData => Act.windUp false .over conclude
  | .over => Act.windUp true .over conclude
  | _ => return .go

/-- The client's certificates. -/
def ownCertificates : ClientAct (Option (ContentType × Bytes)) := do
  let m ← get
  let ders := match m.own.answer, m.own.policy.identity with
    | .identity, some (leaf, _) =>
      (chainToSend [] m.own.policy.trusted leaf).map (·.der)
    | _, _ => []
  if m.isModern then
    Act.protectWriting (← Act.modernProtection .handshake)
    return Act.message .certificate (certificatesModern ders [])
  else return Act.message .certificate (certificatesClassic ders)

/-- The client's share. -/
def ownShare : ClientAct (Option (ContentType × Bytes)) := do
  let suite ← Act.chosenSuite
  let size := ((← part).group.map Policy.Group.clientSize).getD 0
  let body := match suite.kx with
    | .ecdhe => vectorBytes 1 (filler size 0x4b)
    | .rsa => vectorBytes 2 (filler 256 0x4b)
    | _ => vectorBytes 2 (filler size 0x4b)
  return Act.message .clientKeyExchange body

/-- The client's proof that it holds its key. -/
def ownProof : ClientAct (Option (ContentType × Bytes)) := do
  let m ← get
  match m.own.policy.identity, m.own.ownScheme with
  | some (leaf, _), some scheme =>
    let written := writtenScheme (m.version.getD .tls12) scheme
    return Act.message .certificateVerify
      (signatureBytes written (signature leaf.publicKey.family))
  | _, _ => Act.failWith AlertCode.internalError .internalError

/-- The client's last message. -/
def ownFinished : ClientAct (Option (ContentType × Bytes)) := do
  let m ← get
  modify fun m => { m with windsUp := true }
  if m.isModern && m.own.answer = .unasked then
    Act.protectWriting (← Act.modernProtection .handshake)
  return Act.message .finished (finishedBody m.isModern (← Act.chosenSuite))

/-- The message to write. -/
def compose : ClientAct (Option (ContentType × Bytes)) := do
  match (← get).hand with
  | .sent .clientHello => hello
  | .sent .changeCipher => return Act.changeNotice
  | .sent .certificate => ownCertificates
  | .sent .clientKeyExchange => ownShare
  | .sent .certificateVerify => ownProof
  | .sent .endOfEarlyData => return Act.message .endOfEarlyData []
  | .sent .finished => ownFinished
  | _ => return none

/-- Changes what protects writing after the notice of changed ciphers. Without a suite there are no
keys to change to. -/
def changeOwnKeys : ClientAct Unit := do
  let m ← get
  if m.isModern || m.retry = .pending then return
  else if m.early = .connecting && m.earlyLimit > 0 then
    match m.own.sessionSuite? with
    | some suite => Act.protectWriting (.sealed .early (.ofModern suite))
    | none => Act.failWith AlertCode.internalError .internalError
  else
    match m.suite with
    | none =>
      updateSession fun s => { s with suite := 0 }
      Act.breakOff (some AlertCode.internalError)
      Act.halt
    | some suite =>
      updateSession fun s => { s with suite := suite.id, secret := sessionSecret }
      Act.protectWriting (← Act.classicProtection)

/-- What is done after a message was written. -/
def after : ClientAct Work := do
  let m ← get
  match m.hand with
  | .sent .clientHello =>
    if !(m.early = .connecting && m.earlyLimit > 0) then Act.flush
  | .sent .endOfEarlyData => Act.protectWriting .clear
  | .sent .changeCipher => changeOwnKeys
  | .sent .finished =>
    Act.flush
    if m.isModern then Act.protectWriting (← Act.modernProtection .application)
  | _ => pure ()
  return .go

/-! ### Reading -/

/-- The places that a client may be in when a message comes, before TLS 1.3 and in it. -/
def mayFollowModern (m : Machine ClientPart) (t : MessageType) : Bool :=
  match m.hand, t with
  | .received .serverHello, .encryptedExtensions => true
  | .received .encryptedExtensions, .finished => m.hit
  | .received .encryptedExtensions, .certificateRequest
  | .received .encryptedExtensions, .certificate => !m.hit
  | .received .certificateRequest, .certificate => true
  | .received .certificate, .certificateVerify => true
  | .received .certificateVerify, .finished => true
  | .over, .newSessionTicket => true
  | _, _ => false

/-- Whether a message may come after the certificate, where a status response may be left out. -/
def mayFollowCertificate (suite : Suite) (t : MessageType) : Bool :=
  if hasServerShare suite then t = .serverKeyExchange
  else t = .certificateRequest || t = .serverHelloDone

/-- Whether a message may come here before TLS 1.3. -/
def mayFollowClassic (m : Machine ClientPart) (t : MessageType) : Bool :=
  let c := m.own
  let changeOrTicket := t = if c.ticketExpected then .newSessionTicket else .changeCipher
  match m.hand with
  | .sent .clientHello | .earlyData => t = .serverHello
  | .received .serverHello => if m.hit then changeOrTicket else t = .certificate
  | .received .certificate =>
    (c.statusExpected && t = .certificateStatus) || m.suite.any (mayFollowCertificate · t)
  | .received .certificateStatus => m.suite.any (mayFollowCertificate · t)
  | .received .serverKeyExchange => t = .certificateRequest || t = .serverHelloDone
  | .received .certificateRequest => t = .serverHelloDone
  | .sent .finished => changeOrTicket
  | .received .newSessionTicket => t = .changeCipher
  | .received .changeCipher => t = .finished
  | .over => t = .helloRequest
  | _ => false

/-- Moves on to a message that has come, if it may come here. -/
def admits (t : MessageType) : ClientAct Bool := do
  let m ← get
  let fits := if m.isModern then mayFollowModern m t else mayFollowClassic m t
  if fits then Act.setHand (.received t)
  return fits

/-- The size of the largest message that may come here. -/
def limit (m : Machine ClientPart) : Nat :=
  match m.hand with
  | .received .serverHello | .received .encryptedExtensions => 20000
  | .received .certificate | .received .certificateRequest
  | .received .serverKeyExchange => 102400
  | .received .certificateStatus => maxPlain
  | .received .certificateVerify => 65539
  | .received .newSessionTicket => if m.isModern then 131338 else 65541
  | .received .finished => 64
  | .received .changeCipher => 1
  | _ => 0

/-- Deals with a message. -/
def process (body : Bytes) : ClientAct Reading := do
  match (← get).hand with
  | .received .serverHello => serverHello body
  | .received .encryptedExtensions => encryptedExtensions body
  | .received .certificate => certificate body
  | .received .certificateStatus =>
    readStatus body
    return .more
  | .received .serverKeyExchange => serverKeyExchange body
  | .received .certificateRequest => certificateRequest body
  | .received .certificateVerify => certificateVerify body
  | .received .serverHelloDone => serverHelloDone body
  | .received .newSessionTicket => newSessionTicket body
  | .received .changeCipher => changeCipher
  | .received .finished => finished body
  | _ => return .turn

/-- What is done after a message was dealt with. -/
def afterRead : ClientAct Reading := do
  match (← get).hand with
  | .received .certificate => verifyServer
  | _ => prepareCertificate
  return .more

/-- The script of a client. -/
def script : Script ClientPart where
  begin := beginHandshake
  choose := choose
  before := before
  compose := compose
  after := after
  admits := admits
  limit := limit
  process := process
  afterRead := afterRead

end ClientAct

end SocketlessTls.Transparent
