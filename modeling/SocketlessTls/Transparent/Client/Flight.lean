import SocketlessTls.Transparent.Client.ServerHello

/-!
# The rest of the server's flight

After its greeting a server presents itself: certificates, a share of the key exchange, proof that
it holds the key, perhaps a request for the client's own certificate, and in the end its last
message. A ticket may come before or after that.
-/

namespace SocketlessTls.Transparent

open Policy

namespace ClientAct

/-! ### Certificates -/

/-- Keeps a stapled status response. -/
def readStatus (body : Bytes) : ClientAct Unit := do
  match Cut.whole? (do return (← Cut.byte, ← Cut.vector 3)) body with
  | none => Act.failWith AlertCode.decodeError .lengthMismatch
  | some (kind, response) =>
    if kind ≠ 1 then Act.failWith AlertCode.decodeError .unsupportedStatusType
    update fun c => { c with ocsp := some response }

/-- Takes the server's certificates. -/
def certificate (body : Bytes) : ClientAct Reading := do
  let asked := (← part).asked
  if (← get).isModern then
    match readCertificatesModern body with
    | .error r => Act.failWith AlertCode.decodeError r
    | .ok entries =>
      update fun c => { c with peerChain := some (entries.map (·.1)) }
      for (_, xs) in entries do
        Place.check [.certificate] asked [] xs |> orComplain
      if let some body := entries.head?.bind fun e => findExtension e.2 Extension.statusRequest then
        readStatus body
  else
    match readCertificatesClassic body with
    | .error r => Act.failWith AlertCode.decodeError r
    | .ok ders => update fun c => { c with peerChain := some ders }
  let ders := ((← part).peerChain).getD []
  if ders.isEmpty || !ders.all fun der => (X509.Certificate.ofDer? der).isSome then
    Act.failWith AlertCode.decodeError .lengthMismatch
  return .work

/-- Verifies the server's certificate; a failure counts only where the policy asks for it. -/
def verifyServer : ClientAct Unit := do
  let m ← get
  let p := m.own.policy
  match ((m.own.peerChain).getD []).filterMap X509.Certificate.ofDer? with
  | [] => Act.failWith AlertCode.internalError .internalError
  | leaf :: sent =>
    let v := verify p.terms.level p.trusted sent leaf
    update fun c => { c with verifyCode := v.code }
    if p.verifies && v ≠ .ok then Act.failWith v.alert .certificateVerifyFailed
    let family := leaf.publicKey.family
    if family = .unknown then Act.failWith AlertCode.illegalParameter .unknownCertificateType
    if !m.isModern && !suitsKey (← Act.chosenSuite) family then
      Act.failWith AlertCode.illegalParameter .wrongCertificateType
    updateSession fun s => { s with peer := some leaf, verifyResult := v.code }

/-- The key that the server signs with. -/
def serverKey : ClientAct X509.KeyFamily := do
  let peer ← Act.orFail ((← part).content?.bind (·.peer)) AlertCode.internalError .internalError
  return peer.publicKey.family

/-- Checks a signature of the server and keeps its scheme. -/
def checkSignature (scheme : Option UInt16) (bytes : Bytes) : ClientAct Unit := do
  let m ← get
  let v := m.version.getD .tls12
  let family ← serverKey
  let own := m.own.policy.terms.admittedSchemes
  let found := match scheme with
    | none => some (oldScheme family)
    | some id => own.find? fun x => x.id = id && x.isIn v && x.fitsKey v family
  match found with
  | none => Act.failWith AlertCode.illegalParameter .wrongSignatureType
  | some x =>
    update fun c => { c with peerScheme := some x }
    if bytes ≠ signature family then Act.failWith AlertCode.decryptError .badSignature

/-- Takes the server's proof in TLS 1.3. -/
def certificateVerify (body : Bytes) : ClientAct Reading := do
  Act.requireBoundary
  match Cut.whole? (cutSignature true) body with
  | none => Act.failWith AlertCode.decodeError .lengthMismatch
  | some (scheme, bytes) =>
    checkSignature scheme bytes
    return if (← part).answer = .unasked then .more else .work

/-! ### The key exchange before TLS 1.3 -/

/-- Takes the part of a share off the front of a message: the group and what is left. -/
def cutShare (s : Suite) : Cut (Option (UInt8 × UInt16)) := do
  if s.kx = .ecdhe then
    let kind ← Cut.byte
    let id ← Cut.word
    let _ ← Cut.vector 1
    return some (kind, id)
  else
    let _ ← Cut.vector 2
    let _ ← Cut.vector 2
    let _ ← Cut.vector 2
    return none

/-- Takes the server's signed share. -/
def serverKeyExchange (body : Bytes) : ClientAct Reading := do
  let m ← get
  match (cutShare (← Act.chosenSuite)).run body with
  | none => Act.failWith AlertCode.decodeError .lengthMismatch
  | some (place, rest) =>
    match place with
    | none =>
      update fun c => { c with group := some .ffdhe2048, ephemeral := ephemeralKey? .ffdhe2048 }
    | some (kind, id) =>
      match m.own.policy.terms.groups.find? fun g => g.isCurve && g.id = id && kind = 3 with
      | none => Act.failWith AlertCode.illegalParameter .wrongCurve
      | some g => update fun c => { c with group := some g, ephemeral := ephemeralKey? g }
    match Cut.whole? (cutSignature (m.version = some .tls12)) rest with
    | none => Act.failWith AlertCode.decodeError .lengthMismatch
    | some (scheme, bytes) =>
      checkSignature scheme bytes
      return .more

/-- Takes the end of the server's flight. -/
def serverHelloDone (body : Bytes) : ClientAct Reading := do
  if body.isEmpty then return .turn
  else Act.failWith AlertCode.decodeError .lengthMismatch

/-! ### The client's own certificate -/

/-- Reads names of authorities. -/
def readNames (ders : List Bytes) : ClientAct (List X509.Name) := do
  let read (der : Bytes) : Option X509.Name := do
    let (e, _) ← Asn1.readElement? der
    X509.Name.ofElement? e
  Act.orFail (ders.mapM read) AlertCode.decodeError .lengthMismatch

/-- The schemes of some numbers, as far as they are known. -/
def readSchemes (ids : List UInt16) : List Scheme := ids.filterMap Scheme.ofId?

/-- Takes a request for a certificate. -/
def certificateRequest (body : Bytes) : ClientAct Reading := do
  let m ← get
  if m.isModern then
    match Cut.whole? (do let _ ← Cut.vector 1; Cut.vector 2) body with
    | none => Act.failWith AlertCode.decodeError .lengthMismatch
    | some row =>
      let xs ← orComplain (Place.collect [.certificateRequest] m.own.asked row)
      let words (number : UInt16) : List UInt16 :=
        ((findExtension xs number >>= Cut.whole? (Cut.vector 2)) >>= Cut.row? Cut.word).getD []
      let names := ((findExtension xs Extension.certificateAuthorities
        >>= Cut.whole? (Cut.vector 2)) >>= Cut.row? (Cut.vector 2)).getD []
      let authorities ← readNames names
      update fun c =>
        { c with
          answer := .identity
          authorities
          requestedSchemes := readSchemes (words Extension.signatureAlgorithms) }
      return .more
  else
    match readRequestClassic? (m.version = some .tls12) body with
    | none => Act.failWith AlertCode.decodeError .lengthMismatch
    | some (schemes, names) =>
      let authorities ← readNames names
      update fun c =>
        { c with answer := .identity, authorities, requestedSchemes := readSchemes schemes }
      return .work

/-- Decides how to answer a request for a certificate, or waits for a decision. -/
def prepareCertificate : ClientAct Unit := do
  let m ← get
  let c := m.own
  let scheme := c.policy.identity.bind fun (certificate, _) =>
    chooseScheme? (m.version.getD .tls12) c.policy.terms.admittedSchemes c.requestedSchemes
      certificate.publicKey.family
  if scheme.isSome && !m.secondTry then
    update fun c => { c with answer := .identity, ownScheme := scheme }
  else
    modify fun m => { m with secondTry := true }
    if c.policy.defers then
      Act.setWant .certificate
      Act.halt
    Act.setWant .nothing
    update fun c => { c with answer := .empty, ownScheme := none }

/-! ### Tickets and last messages -/

/-- Takes a ticket: the session becomes one that can be resumed by it. -/
def newSessionTicket (body : Bytes) : ClientAct Reading := do
  let m ← get
  let read := if m.isModern then TicketMessage.readModern? body else TicketMessage.readClassic? body
  let t ← Act.orFail read AlertCode.decodeError .lengthMismatch
  if t.ticket.isEmpty then
    if m.isModern then Act.failWith AlertCode.decodeError .lengthMismatch
    return .more
  if m.isModern || m.own.content?.any fun s => !s.id.isEmpty then
    let object ← Act.makeObject
    update fun c => { c with session := c.session.map fun s => { s with object } }
  updateSession fun s =>
    { s with
      id := Digest.Sha256.digest t.ticket
      time := SessionContent.unknownTime
      timeout := 7200
      ticket := some t.ticket
      ticketLifetime := t.lifetime
      ticketAgeAdd := t.ageAdd
      maxEarlyData := if t.maxEarlyData = 0 then s.maxEarlyData else t.maxEarlyData }
  return if m.isModern then .turn else .more

/-- Takes the notice of changed ciphers. -/
def changeCipher : ClientAct Reading := do
  match (← get).suite with
  | none => Act.failWith AlertCode.unexpectedMessage .ccsReceivedEarly
  | some suite =>
    modify fun m => { m with changeSeen := true }
    updateSession fun s => { s with suite := suite.id, secret := sessionSecret }
    Act.protectReading (← Act.classicProtection)
    return .more

/-- Takes the server's last message. -/
def finished (body : Bytes) : ClientAct Reading := do
  let modern := (← get).isModern
  if modern then Act.requireBoundary
  modify fun m => { m with changeSeen := false }
  let expected := finishedBody modern (← Act.chosenSuite)
  if body.length ≠ expected.length then Act.failWith AlertCode.decodeError .badDigestLength
  if body ≠ expected then Act.failWith AlertCode.decryptError .digestCheckFailed
  if modern then
    Act.protectReading (← Act.modernProtection .application)
    updateSession fun s => { s with secret := sessionSecret }
  return .turn

end ClientAct

end SocketlessTls.Transparent
