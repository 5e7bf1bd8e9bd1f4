import SocketlessTls.Transparent.Server.Part

/-!
# What a server makes of a client's greeting

From what a client offers the server chooses a version, a suite, a group, a scheme and an
application protocol, and decides whether a session is resumed and early data is taken. In TLS 1.3
the suite comes before the session, and before that the session brings its suite along.

* `SocketlessTls.Transparent.ServerAct.clientHello` – deals with the greeting.
-/

namespace SocketlessTls.Transparent

open Policy

/-! ### Reading the greeting -/

namespace ClientHello

/-- The words of an extension that holds a row of them. -/
def wordRow (h : ClientHello) (number : UInt16) : List UInt16 :=
  ((findExtension h.extensions number >>= Cut.whole? (Cut.vector 2))
    >>= Cut.row? Cut.word).getD []

/-- Whether an extension is there. -/
def has (h : ClientHello) (number : UInt16) : Bool := (findExtension h.extensions number).isSome

/-- The versions offered. -/
def versions (h : ClientHello) : List Version :=
  match findExtension h.extensions Extension.supportedVersions with
  | some body =>
    ((Cut.whole? (Cut.vector 1) body >>= Cut.row? Cut.word).getD []).filterMap Version.ofWire?
  | none => Version.all.filter fun v => v ≠ .tls13 && v.wire ≤ h.version

/-- The name asked for. -/
def serverName? (h : ClientHello) : Option Bytes :=
  findExtension h.extensions Extension.serverName
    >>= Cut.whole? (do let _ ← Cut.word; let _ ← Cut.byte; Cut.vector 2)

/-- The offer in a greeting. -/
def offer (h : ClientHello) : Offer where
  suites := h.suites
  groups := (h.wordRow Extension.supportedGroups).filterMap Group.ofId?
  shares := (((findExtension h.extensions Extension.keyShare >>= Cut.whole? (Cut.vector 2))
    >>= Cut.row? (do return (← Cut.word, ← Cut.vector 2))).getD []).filterMap
      fun (share : UInt16 × Bytes) => Group.ofId? share.1
  schemes := (h.wordRow Extension.signatureAlgorithms).filterMap Scheme.ofId?
  protocols := (findExtension h.extensions Extension.alpn >>= Cut.whole? (Cut.vector 2))
    >>= Cut.row? (Cut.vector 1)
  wantsStatus := h.has Extension.statusRequest
  wantsEarlyData := h.has Extension.earlyData

/-- The ticket offered in TLS 1.3. -/
def offeredTicket? (h : ClientHello) : Option Bytes := do
  let body ← findExtension h.extensions Extension.preSharedKey
  let (identities, _) ← (Cut.vector 2).run body
  let (ticket, _) ← (Cut.vector 2).run identities
  return ticket

end ClientHello

/-! ### Choosing -/

/-- The group to use in TLS 1.3, and whether a share came for it. Rows of equal rank are gone
through in order: in each, a group with a share comes before one without. -/
def chooseShare? (rows : List (List Group)) (offer : Offer) : Option (Group × Bool) :=
  rows.findSome? fun row =>
    match row.find? offer.shares.contains with
    | some g => some (g, true)
    | none => (row.find? offer.groups.contains).map fun g => (g, false)

/-- The group to use before TLS 1.3: the client's first that the server knows. -/
def chooseCurve? (groups : List Group) (offer : Offer) : Option Group :=
  offer.groups.find? fun g => g.isCurve && groups.contains g

/-- The curve that a key lies on. -/
def curveOf? : X509.KeyFamily → Option Group
  | .p256 => some .p256
  | .p384 => some .p384
  | .p521 => some .p521
  | _ => none

/-- Whether a suite before TLS 1.3 fits the server's key and what the client knows. -/
def fitsServer (c : ServerPart) (v : Version) (s : Suite) : Bool :=
  let family := c.keyFamily
  let keyIsKnown := (curveOf? family).all c.offer.groups.contains
  let edwards := family ≠ .ed25519 || v = .tls12
  let exchange := match s.kx with
    | .rsa => true
    | .dhe => c.policy.hasDh
    | .ecdhe => (chooseCurve? c.policy.terms.groups c.offer).isSome
    | _ => false
  suitsKey s family && keyIsKnown && edwards && exchange

/-- The suite to use: the client's first that the server admits. -/
def chooseSuite? (c : ServerPart) (v : Version) : Option Suite :=
  let own := c.policy.terms.admittedModern ++ c.policy.terms.admittedClassic
  (c.offer.suites.filterMap Suite.ofId?).find? fun s =>
    own.contains s && isUsableIn v s && (v = .tls13 || fitsServer c v s)

namespace ServerAct

/-- Settles the version: the newest that both sides admit. -/
def chooseVersion (h : ClientHello) : ServerAct Unit := do
  let m ← get
  match m.version with
  | some .tls13 => return
  | some v =>
    if h.version < v.wire then Act.failWith AlertCode.protocolVersion .wrongSslVersion
  | none =>
    match (m.own.policy.terms.versions.filter h.versions.contains).getLast? with
    | some v => modify fun m => { m with version := some v }
    | none =>
      modify fun m => { m with version := Version.ofWire? h.version }
      Act.failWith AlertCode.protocolVersion .unsupportedProtocol

/-- Settles the suite. -/
def chooseSuite : ServerAct Unit := do
  let m ← get
  match chooseSuite? m.own (m.version.getD .tls12) with
  | some s => modify fun m => { m with suite := some s }
  | none => Act.failWith AlertCode.handshakeFailure .noSharedCipher

/-! ### Sessions -/

/-- The session that a ticket of TLS 1.3 stands for. -/
def ticketSession? (c : ServerPart) (ticket : Bytes) : Option SessionContent :=
  if c.policy.tickets then Ticket.open? ticket else c.store.find? ticket

/-- The session that is resumed in TLS 1.3. Its digest must be that of the suite; if it is not, no
new ticket is sent either. -/
def modernSession? (h : ClientHello) : ServerAct (Option SessionContent) := do
  let c ← part
  update fun c => { c with ticketExpected := true, earlyFits := false }
  match h.offeredTicket?.bind (ticketSession? c) with
  | none => return none
  | some s =>
    let suite ← Act.chosenSuite
    if (Suite.ofId? s.suite).map hasLongDigest = some (hasLongDigest suite) then
      update fun c => { c with earlyFits := true }
      return some s
    else
      update fun c => { c with ticketExpected := false }
      return none

/-- The session that is resumed before TLS 1.3, by its ticket or else by its identifier. -/
def classicSession? (h : ClientHello) : ServerAct (Option SessionContent) := do
  let c ← part
  let ticket :=
    if c.policy.tickets then findExtension h.extensions Extension.sessionTicket else none
  match ticket with
  | none =>
    update fun c => { c with ticketExpected := false }
    return if h.sessionId.isEmpty then none else c.store.find? h.sessionId
  | some [] =>
    update fun c => { c with ticketExpected := true }
    return if h.sessionId.isEmpty then none else c.store.find? h.sessionId
  | some ticket =>
    match Ticket.open? ticket with
    | none =>
      update fun c => { c with ticketExpected := true }
      return none
    | some s =>
      let version := (← get).version
      update fun c => { c with ticketExpected := s.version? ≠ version }
      return some { s with id := h.sessionId }

/-- Takes a fresh session. -/
def renewSession : ServerAct Unit := do
  let m ← get
  let id ← if m.isModern || m.own.ticketExpected then pure [] else freshId
  let number := ((m.version.map Version.wire).getD 0).toNat
  update fun c =>
    { c with session := some { SessionContent.blank number 0 id [] with
        time := SessionContent.unknownTime
        timeout := 7200
        context := filler 13 0x73 } }

/-- Settles whether a session is resumed. -/
def settleSession (h : ClientHello) : ServerAct Unit := do
  let m ← get
  let found ← if m.isModern then modernSession? h else classicSession? h
  let fits := !m.own.startsAfresh && found.any fun s => s.version? = m.version
  modify fun m => { m with hit := fits }
  if fits then update fun c => { c with session := found } else renewSession

/-! ### What extensions settle -/

/-- Settles the application protocol: the client's first that the server knows. A session that is
resumed with another one is no base for early data. -/
def chooseProtocol : ServerAct Unit := do
  let m ← get
  let c := m.own
  let chosen := match c.policy.alpn, c.offer.protocols with
    | some known, some offered => some (offered.find? known.contains)
    | _, _ => none
  if chosen = some none && c.policy.alpnStrict then
    Act.failWith AlertCode.noApplicationProtocol .noApplicationProtocol
  let protocol := chosen.join
  let fits := (c.session.bind (·.alpn)) = protocol
  update fun c => { c with alpn := protocol, earlyFits := c.earlyFits && fits }
  if !m.hit then
    if let some protocol := protocol then updateSession fun s => { s with alpn := some protocol }

/-- Settles the group in TLS 1.3, or that the client has to greet again. -/
def chooseGroup : ServerAct Unit := do
  let m ← get
  match chooseShare? m.own.policy.terms.groupRows m.own.offer with
  | some (g, true) =>
    update fun c => { c with group := some g }
    if m.retry = .pending then modify fun m => { m with retry := .complete }
  | some (g, false) =>
    if m.retry = .none then
      update fun c => { c with group := some g }
      modify fun m => { m with retry := .pending }
    else Act.failWith AlertCode.handshakeFailure .noSuitableKeyShare
  | none => Act.failWith AlertCode.handshakeFailure .noSuitableKeyShare

/-- The most early data that is passed over, or taken. -/
def earlyBound : Nat := 16384

/-- Settles what becomes of early data. -/
def settleEarlyData : ServerAct Unit := do
  let m ← get
  let c := m.own
  if c.offer.wantsEarlyData then
    let s := c.session
    if c.policy.maxEarlyData > 0 && m.hit && m.early = .accepting && c.earlyFits
        && m.retry = .none then
      let limit := (s.map fun s => s.maxEarlyData.toNat).getD 0
      modify fun m => { m with earlyAnswer := .accepted, earlyLimit := min earlyBound limit }
      let suite ← Act.orFail (s.bind fun s => Suite.ofId? s.suite)
        AlertCode.internalError .internalError
      Act.protectReading (.sealed .early (.ofModern suite))
    else modify fun m => { m with earlyAnswer := .rejected, earlyLimit := earlyBound }

/-- Settles the scheme that the server signs by. -/
def chooseScheme : ServerAct Unit := do
  let m ← get
  let c := m.own
  match chooseScheme? (m.version.getD .tls12) c.policy.terms.admittedSchemes c.offer.schemes
      c.keyFamily with
  | some x => update fun c => { c with scheme := some x }
  | none => Act.failWith AlertCode.handshakeFailure .noSuitableSignatureAlgorithm

/-- Settles whether a status response is stapled, and how it is written. -/
def settleStaple : ServerAct Unit := do
  let m ← get
  let c := m.own
  let staple :=
    if c.offer.wantsStatus && !m.hit then
      (c.policy.ocsp.bind Ocsp.Response.ofDer?).map fun (_, der) => der
    else none
  update fun c => { c with staple }

/-! ### The greeting -/

/-- Whether a new handshake was begun by the client against the policy. -/
def isUnwelcome (m : Machine ServerPart) : Bool :=
  !m.isFirstHandshake && !m.renegotiating && !m.own.policy.renegotiates

/-- Deals with a greeting that is welcome. -/
def welcome (h : ClientHello) : ServerAct Unit := do
  if !(← get).isFirstHandshake && !(← get).renegotiating then
    modify fun m => { m with renegotiating := true }
    update fun c => { c with startsAfresh := true }
  chooseVersion h
  let modern := (← get).isModern
  if modern then Act.requireBoundary
  modify fun m => { m with hit := false }
  update fun c =>
    { c with
      offer := h.offer
      serverName := none
      isSecure := h.suites.contains renegotiationSignal || h.has Extension.renegotiation }
  if modern then chooseSuite
  settleSession h
  update fun c => { c with echo := h.sessionId }
  let hit := (← get).hit
  if modern || !hit then update fun c => { c with serverName := h.serverName? }
  modify fun m => { m with encryptThenMac := h.has Extension.encryptThenMac }
  if modern then
    chooseProtocol
    chooseGroup
    settleEarlyData
  if hit && !modern then
    let suite := (← part).session.bind fun s => Suite.ofId? s.suite
    modify fun m => { m with suite }
  else
    if !modern then
      chooseSuite
      update fun c => { c with group := chooseCurve? c.policy.terms.groups c.offer }
    if !hit then chooseScheme
  settleStaple
  let suite ← Act.chosenSuite
  if suite.mac = .aead then modify fun m => { m with encryptThenMac := false }
  if !modern then chooseProtocol

/-- Deals with a client's greeting. -/
def clientHello (body : Bytes) : ServerAct Reading := do
  if isUnwelcome (← get) then
    Act.sendAlert false AlertCode.noRenegotiation
  else
    match ClientHello.decode? body with
    | none => Act.failWith AlertCode.decodeError .lengthMismatch
    | some h => welcome h
  return .turn

end ServerAct

end SocketlessTls.Transparent
