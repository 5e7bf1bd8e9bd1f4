import SocketlessTls.Transparent.Server.Greeting

/-!
# What a server writes, and what it reads after the greeting

A server answers a greeting with its own, presents itself, and ends with a last message; then it
reads what the client has to say. Tickets follow at the end, or before it in versions older than
TLS 1.3.
-/

namespace SocketlessTls.Transparent

open Policy

namespace ServerAct

/-! ### Greeting -/

/-- The extensions of the server's greeting before TLS 1.3. -/
def classicExtensions (m : Machine ServerPart) (s : Suite) : List Extension :=
  let c := m.own
  let repeated := if m.renegotiating then filler 24 0xf1 else []
  (if c.isSecure then [(Extension.renegotiation, vectorBytes 1 repeated)] else [])
    ++ (if s.kx = .ecdhe || s.auth = .ecdsa then
        [(Extension.pointFormats, vectorBytes 1 [0, 1, 2])]
      else [])
    ++ (if c.ticketExpected then [(Extension.sessionTicket, [])] else [])
    ++ (if c.staple.isSome then [(Extension.statusRequest, [])] else [])
    ++ (c.alpn.map fun p => (Extension.alpn, vectorBytes 2 (vectorBytes 1 p))).toList
    ++ (if m.encryptThenMac then [(Extension.encryptThenMac, [])] else [])
    ++ [(Extension.extendedSecret, [])]

/-- The extensions of the server's greeting in TLS 1.3, or of a request to greet again. -/
def modernExtensions (m : Machine ServerPart) : List Extension :=
  let versions := (Extension.supportedVersions, wordBytes Version.tls13.wire)
  match m.own.group with
  | none => [versions]
  | some g =>
    if m.retry = .pending then [versions, (Extension.keyShare, wordBytes g.id)]
    else
      [versions, (Extension.keyShare, wordBytes g.id ++ vectorBytes 2 (filler g.serverSize 0x4b))]
        ++ (if m.hit then [(Extension.preSharedKey, wordBytes 0)] else [])

/-- The server's greeting. -/
def hello : ServerAct (Option (ContentType × Bytes)) := do
  let m ← get
  let c := m.own
  let suite ← Act.chosenSuite
  let extensions := if m.isModern then modernExtensions m else classicExtensions m suite
  return Act.message .serverHello (ServerHello.encode {
    version := ((if m.isModern then none else m.version).getD .tls12).wire
    random := if m.retry = .pending then retryRandom else filler 32 0x5a
    sessionId := if m.isModern then c.echo else (c.session.map (·.id)).getD []
    suite := suite.id
    compression := 0
    extensionRow := if extensions.isEmpty then none else some (Extension.encodeRow extensions) })

/-- What TLS 1.3 adds to the greeting. -/
def encryptedExtensions : ServerAct (Option (ContentType × Bytes)) := do
  let m ← get
  let c := m.own
  let groups := c.policy.terms.groups
  let prefersAnother := groups.head?.any fun g => c.group ≠ some g
  let extensions : List Extension :=
    (if prefersAnother then
        [(Extension.supportedGroups, vectorBytes 2 (wordsBytes (groups.map Group.id)))]
      else [])
    ++ (c.alpn.map fun p => (Extension.alpn, vectorBytes 2 (vectorBytes 1 p))).toList
    ++ (if m.earlyAnswer = .accepted then [(Extension.earlyData, [])] else [])
  return Act.message .encryptedExtensions (Extension.encode extensions)

/-! ### Presenting oneself -/

/-- A stapled status response with its kind. -/
def stapleBody (der : Bytes) : Bytes := 1 :: vectorBytes 3 der

/-- The server's certificates. -/
def certificates : ServerAct (Option (ContentType × Bytes)) := do
  let m ← get
  let ders := m.own.chain.map (·.der)
  let stapled := (m.own.staple.map fun der => (Extension.statusRequest, stapleBody der)).toList
  return Act.message .certificate
    (if m.isModern then certificatesModern ders stapled else certificatesClassic ders)

/-- The scheme that was chosen. -/
def chosenScheme : ServerAct Scheme := do
  Act.orFail (← part).scheme AlertCode.internalError .internalError

/-- The server's signed share before TLS 1.3. -/
def share : ServerAct (Option (ContentType × Bytes)) := do
  let m ← get
  let suite ← Act.chosenSuite
  let scheme ← chosenScheme
  let params := if suite.kx = .ecdhe then
      let g := m.own.group.getD .x25519
      3 :: wordBytes g.id ++ vectorBytes 1 (filler g.serverSize 0x4b)
    else
      vectorBytes 2 (filler 256 0x4d) ++ vectorBytes 2 [2] ++ vectorBytes 2 (filler 256 0x4b)
  let written := writtenScheme (m.version.getD .tls12) scheme
  return Act.message .serverKeyExchange
    (params ++ signatureBytes written (signature m.own.keyFamily))

/-- The server's proof that it holds its key. -/
def proof : ServerAct (Option (ContentType × Bytes)) := do
  let scheme ← chosenScheme
  return Act.message .certificateVerify
    (signatureBytes (some scheme.id) (signature (← part).keyFamily))

/-- A request for the client's certificate. -/
def certificateRequest : ServerAct (Option (ContentType × Bytes)) := do
  let m ← get
  let schemes := m.own.policy.terms.admittedSchemes.map (·.id)
  let names := m.own.policy.clientAuthorities.filterMap (·.subjectDer?)
  update fun c => { c with certificateRequested := true }
  let body :=
    if m.isModern then
      let authorities : List Extension :=
        if names.isEmpty then [] else
          [(Extension.certificateAuthorities, vectorBytes 2 (names.flatMap (vectorBytes 2)))]
      vectorBytes 1 [] ++ Extension.encode
        ((Extension.signatureAlgorithms, vectorBytes 2 (wordsBytes schemes)) :: authorities)
    else requestClassic (m.version = some .tls12) schemes names
  return Act.message .certificateRequest body

/-- The server's last message. -/
def lastMessage : ServerAct (Option (ContentType × Bytes)) := do
  return Act.message .finished (finishedBody (← get).isModern (← Act.chosenSuite))

/-! ### Tickets -/

/-- A ticket in TLS 1.3. Every ticket has a session of its own. -/
def modernTicket : ServerAct (Option (ContentType × Bytes)) := do
  let id ← freshId
  let c ← part
  updateSession fun s =>
    { s with
      id
      alpn := c.alpn.or s.alpn
      maxEarlyData := c.policy.maxEarlyData }
  let s ← Act.orFail (← part).session AlertCode.internalError .internalError
  update fun c => { c with ticketsSent := c.ticketsSent + 1 }
  let ticket := if c.policy.tickets then Ticket.wrap c.store.count s else id
  if !c.policy.tickets then keepSession
  return Act.message .newSessionTicket
    (TicketMessage.encodeModern ⟨s.timeout, 0, ticket, c.policy.maxEarlyData⟩)

/-- A ticket before TLS 1.3. -/
def classicTicket : ServerAct (Option (ContentType × Bytes)) := do
  let _ ← freshId
  let c ← part
  let s ← Act.orFail c.session AlertCode.internalError .internalError
  return Act.message .newSessionTicket
    (TicketMessage.encodeClassic ⟨s.timeout, 0, Ticket.wrap c.store.count s, 0⟩)

/-- A ticket. -/
def ticket : ServerAct (Option (ContentType × Bytes)) := do
  if (← get).isModern then modernTicket else classicTicket

/-! ### Reading -/

/-- Takes the client's certificate; without one it goes on only if the policy allows that. -/
def clientCertificate (body : Bytes) : ServerAct Reading := do
  let m ← get
  let p := m.own.policy
  let ders ← match m.isModern with
    | true =>
      match readCertificatesModern body with
      | .ok entries => pure (entries.map (·.1))
      | .error r => Act.failWith AlertCode.decodeError r
    | false =>
      match readCertificatesClassic body with
      | .ok ders => pure ders
      | .error r => Act.failWith AlertCode.decodeError r
  match ders.filterMap X509.Certificate.ofDer? with
  | [] =>
    if p.requiresCertificate then
      Act.failWith AlertCode.certificateRequired .peerDidNotReturnACertificate
  | leaf :: sent =>
    let v := verify p.terms.level p.clientAuthorities sent leaf
    if v ≠ .ok then Act.failWith v.alert .certificateVerifyFailed
    updateSession fun s => { s with peer := some leaf, verifyResult := v.code }
  return .more

/-- Takes the client's proof. Before TLS 1.3 the curve of its key must be one that both know. -/
def clientProof (body : Bytes) : ServerAct Reading := do
  let m ← get
  let c := m.own
  let v := m.version.getD .tls12
  match Cut.whole? (cutSignature (Version.tls12 ≤ v)) body, c.clientCertificate? with
  | some (scheme, bytes), some certificate =>
    let family := certificate.publicKey.family
    let own := c.policy.terms.admittedSchemes
    let fits := match scheme with
      | none => true
      | some id => own.any fun x => x.id = id && x.isIn v && x.fitsKey v family
    if !fits then Act.failWith AlertCode.illegalParameter .wrongSignatureType
    if v = .tls12 then
      if let some g := curveOf? family then
        if !c.policy.terms.groups.contains g || !c.offer.groups.contains g then
          Act.failWith AlertCode.illegalParameter .wrongCurve
    if bytes ≠ signature family then Act.failWith AlertCode.decryptError .badSignature
    return .more
  | _, _ => Act.failWith AlertCode.decodeError .lengthMismatch

/-- Takes the end of early data. -/
def endOfEarlyData : ServerAct Reading := do
  Act.requireBoundary
  modify fun m => { m with early := .finishedReading }
  Act.protectReading (← Act.modernProtection .handshake)
  return .more

/-- Takes the notice of changed ciphers. -/
def changeCipher : ServerAct Reading := do
  modify fun m => { m with changeSeen := true }
  let suite ← Act.chosenSuite
  updateSession fun s => { s with suite := suite.id, secret := sessionSecret }
  Act.protectReading (← Act.classicProtection)
  return .more

/-- Takes the client's last message. -/
def finished (body : Bytes) : ServerAct Reading := do
  let modern := (← get).isModern
  modify fun m => { m with windsUp := true }
  if modern then Act.requireBoundary
  modify fun m => { m with changeSeen := false }
  if body ≠ finishedBody modern (← Act.chosenSuite) then
    Act.failWith AlertCode.decryptError .digestCheckFailed
  if modern then
    Act.protectReading (← Act.modernProtection .application)
    updateSession fun s => { s with secret := sessionSecret }
  return .turn

end ServerAct

end SocketlessTls.Transparent
