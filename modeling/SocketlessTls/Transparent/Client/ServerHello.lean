import SocketlessTls.Transparent.Client.Greeting

/-!
# What the client makes of the server's greeting

The server's greeting settles the version, the suite, and whether the session that was offered is
resumed; or it asks the client to greet again. Everything in it is checked against what was offered,
in an order that decides which of several faults is reported.

* `SocketlessTls.Transparent.ClientAct.serverHello` – deals with the greeting;
* `SocketlessTls.Transparent.ClientAct.encryptedExtensions` – and with what TLS 1.3 adds to it.
-/

namespace SocketlessTls.Transparent

open Policy

namespace ClientAct

/-! ### The version and the suite -/

/-- The version that a greeting names, where an extension overrides the field. -/
def namedVersion (field : UInt16) (xs : List Extension) : ClientAct UInt16 := do
  match findExtension xs Extension.supportedVersions with
  | none => return field
  | some body =>
    match Cut.whole? Cut.word body with
    | none => Act.failWith AlertCode.decodeError .lengthMismatch
    | some n =>
      if n = Version.tls13.wire then return n
      else Act.failWith AlertCode.illegalParameter .badProtocolVersionNumber

/-- Settles the version. -/
def chooseVersion (field : UInt16) (xs : List Extension) : ClientAct Unit := do
  let m ← get
  let n ← namedVersion field xs
  if m.retry ≠ .none && n ≠ Version.tls13.wire then
    Act.failWith AlertCode.illegalParameter .wrongSslVersion
  match m.version with
  | some v =>
    if v.wire ≠ n then Act.failWith AlertCode.protocolVersion .wrongSslVersion
  | none =>
    match m.own.policy.terms.versions.find? fun v => v.wire = n with
    | some v => modify fun m => { m with version := some v }
    | none => Act.failWith AlertCode.protocolVersion .unsupportedProtocol

/-- Settles the suite, which must have been offered and must be the session's own if that is
resumed; in TLS 1.3 it is enough if the digests agree. -/
def chooseSuite (id : UInt16) : ClientAct Unit := do
  let m ← get
  let c := m.own
  match Suite.ofId? id with
  | none => Act.failWith AlertCode.illegalParameter .unknownCipherReturned
  | some s =>
    let fits := match m.version with
      | some v => isUsableIn v s
      | none => true
    if !fits || !(offeredSuites c.policy.terms).contains s then
      Act.failWith AlertCode.illegalParameter .wrongCipherReturned
    if m.isModern && m.suite.any (· ≠ s) then
      Act.failWith AlertCode.illegalParameter .wrongCipherReturned
    if m.hit && c.sessionSuite? ≠ some s then
      if !m.isModern then
        Act.failWith AlertCode.illegalParameter .oldSessionCipherNotReturned
      else if c.sessionSuite?.map hasLongDigest ≠ some (hasLongDigest s) then
        Act.failWith AlertCode.illegalParameter .ciphersuiteDigestHasChanged
    modify fun m => { m with suite := some s }

/-! ### Extensions of greetings -/

/-- Reads the application protocol that the server chose. -/
def readProtocol (body : Bytes) : ClientAct Unit := do
  let m ← get
  if !m.own.asked.contains Extension.alpn then
    Act.failWith AlertCode.unsupportedExtension .badExtension
  match Cut.whole? (Cut.vector 2) body >>= Cut.whole? (Cut.vector 1) with
  | none => Act.failWith AlertCode.decodeError .badExtension
  | some protocol =>
    let same := (m.own.content?.bind (·.alpn)) = some protocol
    update fun c => { c with alpn := some protocol, earlyFits := c.earlyFits && same }
    if !m.hit then updateSession fun s => { s with alpn := some protocol }

/-- Reads what a server says about application protocols, if anything. -/
def settleProtocol (xs : List Extension) : ClientAct Unit := do
  update fun c => { c with alpn := none }
  match findExtension xs Extension.alpn with
  | some body => readProtocol body
  | none =>
    let expected := ((← part).content?.bind (·.alpn)).isSome
    update fun c => { c with earlyFits := c.earlyFits && !expected }

/-- Fails unless an extension that only says yes is empty. -/
def requireEmpty (xs : List Extension) (number : UInt16) : ClientAct Unit :=
  match findExtension xs number with
  | some (_ :: _) => Act.failWith AlertCode.decodeError .badExtension
  | _ => return

/-- Reads the renegotiation extension, which must repeat what ended the last handshake. -/
def readRenegotiation (body : Bytes) : ClientAct Unit := do
  let size := if (← get).renegotiating then 24 else 0
  if body.isEmpty then Act.failWith AlertCode.decodeError .badLength
  match Cut.whole? (Cut.vector 1) body with
  | none => Act.failWith AlertCode.decodeError .renegotiationEncoding
  | some data =>
    if data.length ≠ size then Act.failWith AlertCode.illegalParameter .renegotiationMismatch
    update fun c => { c with isSecure := true }

/-- Reads the extensions of a greeting before TLS 1.3. -/
def classicExtensions (xs : List Extension) : ClientAct Unit := do
  update fun c => { c with ticketExpected := false, statusExpected := false, ocsp := none }
  if let some body := findExtension xs Extension.renegotiation then readRenegotiation body
  requireEmpty xs Extension.serverName
  requireEmpty xs Extension.sessionTicket
  requireEmpty xs Extension.statusRequest
  let has (number : UInt16) : Bool := (findExtension xs number).isSome
  update fun c =>
    { c with
      ticketExpected := has Extension.sessionTicket
      statusExpected := has Extension.statusRequest }
  settleProtocol xs
  let suite ← Act.chosenSuite
  modify fun m =>
    { m with encryptThenMac := has Extension.encryptThenMac && suite.mac ≠ .aead }
  if !has Extension.renegotiation then
    Act.failWith AlertCode.handshakeFailure .legacyRenegotiationDisabled

/-- Reads the server's share; it belongs to a group that a share was sent for. -/
def readShare (body : Bytes) : ClientAct Unit := do
  match Cut.whole? (do return (← Cut.word, ← Cut.vector 2)) body with
  | none => Act.failWith AlertCode.decodeError .lengthMismatch
  | some (id, share) =>
    match (← part).shares.find? fun g => g.id = id with
    | none => Act.failWith AlertCode.illegalParameter .badKeyShare
    | some g =>
      if share.length ≠ g.serverSize then
        Act.failWith AlertCode.illegalParameter .badKeyShare
      update fun c => { c with ephemeral := ephemeralKey? g }

/-- Reads the extensions of a greeting in TLS 1.3. -/
def modernHelloExtensions (xs : List Extension) : ClientAct Unit := do
  update fun c => { c with alpn := none, ocsp := none }
  match findExtension xs Extension.keyShare with
  | none => Act.failWith AlertCode.missingExtension .noSuitableKeyShare
  | some body => readShare body

/-! ### Greeting again -/

/-- Reads a request to greet again, which must change something. -/
def retryRequest (h : ServerHello) : ClientAct Reading := do
  let c ← part
  if h.compression ≠ 0 then
    Act.failWith AlertCode.illegalParameter .invalidCompressionAlgorithm
  if h.sessionId ≠ c.echo then Act.failWith AlertCode.illegalParameter .invalidSessionId
  chooseSuite h.suite
  if (← get).early = .finishedWriting then Act.protectWriting .clear
  let xs ← orComplain (Place.collect [.retry] c.asked (h.extensionRow.getD []))
  if let some body := findExtension xs Extension.supportedVersions then
    let _ ← namedVersion 0 [(Extension.supportedVersions, body)]
  if let some body := findExtension xs Extension.keyShare then
    match Cut.whole? Cut.word body with
    | none => Act.failWith AlertCode.decodeError .lengthMismatch
    | some id =>
      match c.policy.terms.groups.find? fun g => g.id = id with
      | some g =>
        if c.shares.contains g then Act.failWith AlertCode.illegalParameter .badKeyShare
        update fun c => { c with retryGroup := some g }
      | none => Act.failWith AlertCode.illegalParameter .badKeyShare
  if let some body := findExtension xs Extension.cookie then
    match Cut.whole? (Cut.vector 2) body with
    | none => Act.failWith AlertCode.decodeError .lengthMismatch
    | some cookie => update fun c => { c with cookie := some cookie }
  let c ← part
  if c.retryGroup.isNone && c.cookie.isNone then
    Act.failWith AlertCode.illegalParameter .noChangeFollowingHrr
  return .turn

/-! ### The greeting -/

/-- Whether the server resumes the session that was offered. -/
def settleHit (h : ServerHello) (xs : List Extension) : ClientAct Unit := do
  let m ← get
  let c := m.own
  if m.isModern then
    Act.requireBoundary
    match findExtension xs Extension.preSharedKey with
    | none => modify fun m => { m with hit := false }
    | some body =>
      match Cut.whole? Cut.word body with
      | none => Act.failWith AlertCode.decodeError .lengthMismatch
      | some n =>
        if n ≠ 0 || !c.offersTicket then
          Act.failWith AlertCode.illegalParameter .badPskIdentity
        modify fun m => { m with hit := true }
  else
    let hit := !h.sessionId.isEmpty && c.content?.any (·.id = h.sessionId)
    modify fun m => { m with hit }

/-- Joins the session to the greeting. -/
def joinSession (h : ServerHello) : ClientAct Unit := do
  let m ← get
  let number : Int := ((m.version.map Version.wire).getD 0).toNat
  if !m.hit then
    if m.own.content?.any fun s => !s.id.isEmpty then renewSession
    updateSession fun s => { s with protocol := number }
    if !m.isModern then updateSession fun s => { s with id := h.sessionId }
  if !((← part).content?.any fun s => s.protocol = number) then
    Act.failWith AlertCode.illegalParameter .sessionVersionMismatch

/-- Deals with the server's greeting. -/
def serverHello (body : Bytes) : ClientAct Reading := do
  let m ← get
  let mayRetry := m.version = none && m.own.admitsModern
  match ServerHello.decode body with
  | .error r =>
    let alert :=
      if r = .sessionIdTooLong then AlertCode.illegalParameter else AlertCode.decodeError
    Act.failWith alert r
  | .ok h =>
    if mayRetry && h.version = Version.tls12.wire && h.isRetry then
      if m.retry ≠ .none then Act.failWith AlertCode.unexpectedMessage .unexpectedMessage
      modify fun m => { m with retry := .pending }
      return ← retryRequest h
    let xs ← orComplain
      (Place.collect [.classicHello, .modernHello] m.own.asked (h.extensionRow.getD []))
    chooseVersion h.version xs
    let modern := (← get).isModern
    if modern then
      if h.compression ≠ 0 then
        Act.failWith AlertCode.illegalParameter .invalidCompressionAlgorithm
      if h.sessionId ≠ m.own.echo then
        Act.failWith AlertCode.illegalParameter .invalidSessionId
    let place : Place := if modern then .modernHello else .classicHello
    if !xs.all fun x => Place.admits [place] x.1 then
      Act.failWith AlertCode.illegalParameter .badExtension
    settleHit h xs
    joinSession h
    chooseSuite h.suite
    if h.compression ≠ 0 then
      Act.failWith AlertCode.illegalParameter .unsupportedCompressionAlgorithm
    if modern then
      modernHelloExtensions xs
      let suite ← Act.chosenSuite
      updateSession fun s => { s with suite := suite.id }
      Act.protectReading (← Act.modernProtection .handshake)
      if (← get).retry = .pending then modify fun m => { m with retry := .complete }
    else
      classicExtensions xs
    return .more

/-- Deals with what TLS 1.3 adds to the greeting. -/
def encryptedExtensions (body : Bytes) : ClientAct Reading := do
  match Cut.whole? (Cut.vector 2) body with
  | none => Act.failWith AlertCode.decodeError .lengthMismatch
  | some row =>
    let xs ← orComplain (Place.collect [.encryptedExtensions] (← part).asked row)
    requireEmpty xs Extension.serverName
    settleProtocol xs
    if let some body := findExtension xs Extension.earlyData then
      if !body.isEmpty then Act.failWith AlertCode.decodeError .badExtension
      if !(← part).earlyFits || !(← get).hit then
        Act.failWith AlertCode.illegalParameter .badExtension
      modify fun m => { m with earlyAnswer := .accepted }
    return .more

end ClientAct

end SocketlessTls.Transparent
