import SocketlessTls.Transparent.Client.Part

/-!
# The client's greeting

A client greets by offering what its policy admits and the session that it would like to resume.
It greets once, or a second time if the server asks for a share in another group.

* `SocketlessTls.Transparent.ClientAct.hello` – the greeting.
-/

namespace SocketlessTls.Transparent

open Policy

/-! ### Suites -/

/-- Whether a suite rests on a secret that both ends had before. -/
def needsOwnSecret (s : Suite) : Bool :=
  s.kx = .psk || s.kx = .dhePsk || s.kx = .rsaPsk || s.kx = .ecdhePsk || s.kx = .srp
    || s.auth = .psk || s.auth = .srp

/-- Whether some scheme signs as a suite wants it. -/
def isSignable (schemes : List Scheme) (s : Suite) : Bool :=
  match s.auth with
  | .rsa => schemes.any fun x => x.kind = .rsa || x.kind = .rsaPss || x.kind = .rsaPssKey
  | .ecdsa => schemes.any fun x => x.kind = .ecdsa || x.kind = .ed25519 || x.kind = .ed448
  | .dss => schemes.any fun x => x.kind = .dsa
  | _ => true

/-- The suites that a client offers. -/
def offeredSuites (t : Terms) : List Suite :=
  let schemes := t.admittedSchemes
  (t.admittedModern ++ t.admittedClassic).filter fun s =>
    !needsOwnSecret s && isSignable schemes s && t.versions.any (isUsableIn · s)

/-! ### Extensions -/

/-- A name as the server-name extension holds it. -/
def serverNameBody (name : Bytes) : Bytes := vectorBytes 2 (0 :: vectorBytes 2 name)

/-- A share in a group. -/
def shareEntry (g : Group) : Bytes := wordBytes g.id ++ vectorBytes 2 (filler g.clientSize 0x4b)

/-- Whether a session can be offered in TLS 1.3 by its ticket: it has one that is not too old, and
if the suite is settled already its digest is the right one. -/
def offersSession (settled : Option Suite) (s : SessionContent) : Bool :=
  s.protocol = 0x0304 && s.ticket.any (!·.isEmpty)
    && SessionContent.unknownTime - s.time ≤ s.ticketLifetime
    && match Suite.ofId? s.suite, settled with
      | some own, some suite => hasLongDigest own = hasLongDigest suite
      | some _, none => true
      | none, _ => false

/-- The extension that offers a session by its ticket. -/
def ticketOffer (s : SessionContent) : Extension :=
  let size := match Suite.ofId? s.suite with
    | some suite => digestSize suite
    | none => 32
  (Extension.preSharedKey,
    vectorBytes 2 (vectorBytes 2 (s.ticket.getD []) ++ Bytes.ofNat 4 s.ticketAgeAdd)
      ++ vectorBytes 2 (vectorBytes 1 (filler size 0x4d)))

namespace ClientAct

/-- Whether an application protocol is among those offered. -/
def offersProtocol (c : ClientPart) (protocol : Bytes) : Bool :=
  (Alpn.decode? c.policy.alpn).any (·.contains protocol)

/-- Whether early data is offered, and how much. Data may only be sent early under the name and the
application protocol of the session that allows it. -/
def earlyOffer : ClientAct (Option UInt32) := do
  let c ← part
  let limit := (c.content?.map (·.maxEarlyData)).getD 0
  if (← get).early ≠ .connecting || limit = 0 then return none
  let s := c.content?
  if let some name := s.bind (·.hostname) then
    if c.policy.serverName ≠ some name then
      Act.failWith AlertCode.internalError .inconsistentEarlyDataSni
  if let some protocol := s.bind (·.alpn) then
    if !offersProtocol c protocol then
      Act.failWith AlertCode.internalError .inconsistentEarlyDataAlpn
  return some limit

/-- The extensions of TLS 1.3, the one with the session last. -/
def modernExtensions : ClientAct (List Extension) := do
  let m ← get
  let c := m.own
  let shares := match c.retryGroup with
    | some g => [g]
    | none => Group.shared
  let early ← earlyOffer
  modify fun m => { m with earlyLimit := (early.map UInt32.toNat).getD 0 }
  if early.isSome then modify fun m => { m with earlyAnswer := .rejected }
  let session := c.content?.filter (offersSession (if m.retry = .pending then m.suite else none))
  update fun c =>
    { c with shares, offersTicket := session.isSome, earlyFits := c.earlyFits || early.isSome }
  return [(Extension.supportedVersions,
      vectorBytes 1 (wordsBytes (c.policy.terms.versions.reverse.map Version.wire))),
    (Extension.keyModes, vectorBytes 1 [1]),
    (Extension.keyShare, vectorBytes 2 (shares.flatMap shareEntry))]
    ++ (c.cookie.map fun body => (Extension.cookie, vectorBytes 2 body)).toList
    ++ (early.map fun _ => (Extension.earlyData, [])).toList
    ++ (session.map ticketOffer).toList

/-- The extensions of every version. -/
def plainExtensions (suites : List Suite) (m : Machine ClientPart) : List Extension :=
  let c := m.own
  let p := c.policy
  let usesCurves := c.admitsModern || suites.any fun s => s.kx = .ecdhe || s.auth = .ecdsa
  let groups := p.terms.groups.filter fun g => c.admitsModern || g.isCurve
  let ticket := match c.content? with
    | some s => if c.startsAfresh || s.protocol = 0x0304 then [] else s.ticket.getD []
    | none => []
  let protocols := vectorBytes 2 p.alpn
  [(Extension.renegotiation, vectorBytes 1 (if m.renegotiating then filler 12 0xf1 else []))]
    ++ (p.serverName.map fun name => (Extension.serverName, serverNameBody name)).toList
    ++ (if usesCurves then
        [(Extension.pointFormats, vectorBytes 1 [0, 1, 2]),
         (Extension.supportedGroups, vectorBytes 2 (wordsBytes (groups.map Group.id)))]
      else [])
    ++ (if p.tickets then [(Extension.sessionTicket, ticket)] else [])
    ++ (if p.wantsOcsp then [(Extension.statusRequest, [1, 0, 0, 0, 0])] else [])
    ++ (if p.alpn.isEmpty || !m.isFirstHandshake then [] else [(Extension.alpn, protocols)])
    ++ [(Extension.encryptThenMac, []), (Extension.extendedSecret, [])]
    ++ (if p.terms.versions.any fun v => v = .tls12 || v = .tls13 then
        [(Extension.signatureAlgorithms,
          vectorBytes 2 (wordsBytes (p.terms.admittedSchemes.map (·.id))))]
      else [])

/-! ### The greeting -/

/-- Takes a fresh session unless the one at hand can be offered. -/
def settleSession : ClientAct Unit := do
  let m ← get
  let c := m.own
  let isOffered := match c.content? with
    | none => false
    | some s =>
      s.version?.any c.policy.terms.versions.contains
        && (!s.id.isEmpty || s.ticket.any (!·.isEmpty))
  if !isOffered && m.retry = .none then renewSession

/-- The session identifier to send. Where TLS 1.3 is possible one is made up if there is none. -/
def greetingId : ClientAct Bytes := do
  let m ← get
  let c := m.own
  let mayBeModern := c.admitsModern && m.version = none
  let id := (c.content?.map (·.id)).getD []
  let isModernSession := c.content?.any (·.protocol = 0x0304)
  if c.startsAfresh || isModernSession then
    let id := if mayBeModern then filler 32 0x1d else []
    update fun c => { c with echo := id }
    return id
  else
    if mayBeModern then update fun c => { c with echo := id }
    return id

/-- The first message of a client. -/
def hello : ClientAct (Option (ContentType × Bytes)) := do
  settleSession
  let sessionId ← greetingId
  let c ← part
  let terms := c.policy.terms
  let suites := offeredSuites terms
  if !suites.any fun s => terms.versions.getLast?.any (isUsableIn · s) then
    Act.failWith AlertCode.internalError .noCiphersAvailable
  let plain := plainExtensions suites (← get)
  let modern ← if c.admitsModern then modernExtensions else pure []
  let extensions := plain ++ modern
  update fun c => { c with asked := extensions.map (·.1) }
  let version := match (← get).version.or c.newest with
    | some .tls13 | none => Version.tls12
    | some v => v
  let signal := if (← get).renegotiating then [] else [renegotiationSignal]
  return Act.message .clientHello (ClientHello.encode {
    version := version.wire
    random := filler 32 0xc1
    sessionId
    suites := suites.map (·.id) ++ signal
    extensions })

/-- What comes before a greeting. -/
def beginHandshake : ClientAct Unit := do
  if (← part).newest.isNone then
    Act.failWith AlertCode.protocolVersion .noProtocolsAvailable
  modify fun m => { m with hit := false }
  update fun c => { c with answer := .unasked, asked := [] }

end ClientAct

end SocketlessTls.Transparent
