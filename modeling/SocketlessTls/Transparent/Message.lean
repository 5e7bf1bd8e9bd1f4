import SocketlessTls.Transparent.Reason
import SocketlessTls.Transparent.Wire

/-!
# Handshake messages

A handshake message is a type, a length in three bytes, and a body. This file has the types, the
two greetings with their extensions, and the layouts of the other bodies.

* `SocketlessTls.Transparent.ClientHello`, `SocketlessTls.Transparent.ServerHello` – the greetings;
* `SocketlessTls.Transparent.Extension` – what greetings and other messages carry besides.
-/

namespace SocketlessTls.Transparent

/-- The type of a handshake message; changing ciphers counts as one although it travels in records
of its own. -/
inductive MessageType where
  | helloRequest
  | clientHello
  | serverHello
  | newSessionTicket
  | endOfEarlyData
  | encryptedExtensions
  | certificate
  | serverKeyExchange
  | certificateRequest
  | serverHelloDone
  | certificateVerify
  | clientKeyExchange
  | finished
  | certificateStatus
  | keyUpdate
  | changeCipher
  | other (number : UInt8)
  deriving Repr, DecidableEq

namespace MessageType

/-- The numbers of the types. -/
def numbers : List (UInt8 × MessageType) :=
  [(0, helloRequest), (1, clientHello), (2, serverHello), (4, newSessionTicket),
   (5, endOfEarlyData), (8, encryptedExtensions), (11, certificate), (12, serverKeyExchange),
   (13, certificateRequest), (14, serverHelloDone), (15, certificateVerify),
   (16, clientKeyExchange), (20, finished), (22, certificateStatus), (24, keyUpdate)]

/-- The type of a number. -/
def ofNumber (n : UInt8) : MessageType := (numbers.lookup n).getD (other n)

/-- The number of a type. -/
def number : MessageType → UInt8
  | other n => n
  | t => ((numbers.find? (·.2 = t)).map (·.1)).getD 0

end MessageType

/-- A message with its header. -/
def messageBytes (type : MessageType) (body : Bytes) : Bytes := type.number :: vectorBytes 3 body

/-! ### Extensions -/

/-- An extension: its number and its body. -/
abbrev Extension := UInt16 × Bytes

namespace Extension

def serverName : UInt16 := 0
def maxFragment : UInt16 := 1
def statusRequest : UInt16 := 5
def supportedGroups : UInt16 := 10
def pointFormats : UInt16 := 11
def srpUser : UInt16 := 12
def signatureAlgorithms : UInt16 := 13
def datagramMedia : UInt16 := 14
def alpn : UInt16 := 16
def signedTimestamps : UInt16 := 18
def clientKeyKind : UInt16 := 19
def serverKeyKind : UInt16 := 20
def padding : UInt16 := 21
def encryptThenMac : UInt16 := 22
def extendedSecret : UInt16 := 23
def sessionTicket : UInt16 := 35
def preSharedKey : UInt16 := 41
def earlyData : UInt16 := 42
def supportedVersions : UInt16 := 43
def cookie : UInt16 := 44
def keyModes : UInt16 := 45
def certificateAuthorities : UInt16 := 47
def laterAuthentication : UInt16 := 49
def certificateSchemes : UInt16 := 50
def keyShare : UInt16 := 51
def nextProtocol : UInt16 := 13172
def oldSuites : UInt16 := 0xfde8
def renegotiation : UInt16 := 0xff01

/-- A row of extensions without the length before it. -/
def encodeRow (xs : List Extension) : Bytes :=
  xs.flatMap fun (number, body) => wordBytes number ++ vectorBytes 2 body

/-- A row of extensions after its length. -/
def encode (xs : List Extension) : Bytes := vectorBytes 2 (encodeRow xs)

/-- Reads a row of extensions without the length before it. -/
def decodeRow? : Bytes → Option (List Extension) :=
  Cut.row? do return (← Cut.word, ← Cut.vector 2)

end Extension

/-- The body of an extension among some. -/
def findExtension (xs : List Extension) (number : UInt16) : Option Bytes := xs.lookup number

/-! ### The client's greeting -/

/-- The first message of a client. -/
structure ClientHello where
  version : UInt16
  random : Bytes
  sessionId : Bytes
  suites : List UInt16
  extensions : List Extension
  deriving Repr, DecidableEq

namespace ClientHello

/-- The body of a client's greeting; it offers no compression. -/
def encode (h : ClientHello) : Bytes :=
  wordBytes h.version ++ h.random ++ vectorBytes 1 h.sessionId
    ++ vectorBytes 2 (wordsBytes h.suites) ++ [1, 0] ++ Extension.encode h.extensions

/-- Reads the body of a client's greeting. -/
def decode? : Bytes → Option ClientHello :=
  Cut.whole? do
    let version ← Cut.word
    let random ← Cut.take 32
    let sessionId ← Cut.vector 1
    let suites ← Cut.vector 2
    let _ ← Cut.vector 1
    let extensions ← (do if ← Cut.atEnd then return [] else Cut.vector 2 : Cut Bytes)
    match Cut.row? Cut.word suites, Extension.decodeRow? extensions with
    | some suites, some extensions => return ⟨version, random, sessionId, suites, extensions⟩
    | _, _ => failure

end ClientHello

/-! ### The server's greeting -/

/-- The random bytes that make a server's greeting a request to greet again. -/
def retryRandom : Bytes :=
  (Bytes.ofHex? "cf21ad74e59a6111be1d8c021e65b891c2a211167abb8c5e079e09e2c8a8339c").getD []

/-- The first message of a server; the extensions are left as they came. -/
structure ServerHello where
  version : UInt16
  random : Bytes
  sessionId : Bytes
  suite : UInt16
  compression : UInt8
  /-- The row of extensions without the length before it; none if the message ends before it. -/
  extensionRow : Option Bytes
  deriving Repr, DecidableEq

namespace ServerHello

/-- The body of a server's greeting. -/
def encode (h : ServerHello) : Bytes :=
  wordBytes h.version ++ h.random ++ vectorBytes 1 h.sessionId ++ wordBytes h.suite
    ++ [h.compression] ++ (h.extensionRow.map (vectorBytes 2)).getD []

/-- Whether this is a request to greet again. -/
def isRetry (h : ServerHello) : Bool := h.random = retryRandom

/-- Reads the body of a server's greeting, or tells what is wrong with it. -/
def decode (bs : Bytes) : Except Reason ServerHello :=
  let fields : Cut (UInt16 × Bytes × Bytes × UInt16 × UInt8) := do
    return (← Cut.word, ← Cut.take 32, ← Cut.vector 1, ← Cut.word, ← Cut.byte)
  match (do return (← Cut.word, ← Cut.take 32, ← Cut.vector 1) : Cut _).run bs with
  | none => .error .lengthMismatch
  | some ((_, _, id), _) =>
    if id.length > 32 then .error .sessionIdTooLong
    else
      match fields.run bs with
      | none => .error .lengthMismatch
      | some ((version, random, sessionId, suite, compression), rest) =>
        if rest.isEmpty then .ok ⟨version, random, sessionId, suite, compression, none⟩
        else
          match Cut.whole? (Cut.vector 2) rest with
          | none => .error .badLength
          | some row => .ok ⟨version, random, sessionId, suite, compression, some row⟩

end ServerHello

/-! ### Other bodies -/

/-- Certificates before TLS 1.3. -/
def certificatesClassic (ders : List Bytes) : Bytes :=
  vectorBytes 3 (ders.flatMap (vectorBytes 3))

/-- Certificates in TLS 1.3, the first of them with extensions of its own. -/
def certificatesModern (ders : List Bytes) (leafExtensions : List Extension) : Bytes :=
  let entry (xs : List Extension) (der : Bytes) : Bytes := vectorBytes 3 der ++ Extension.encode xs
  let entries := match ders with
    | [] => []
    | leaf :: rest => entry leafExtensions leaf ++ rest.flatMap (entry [])
  vectorBytes 1 [] ++ vectorBytes 3 entries

/-- Reads certificates before TLS 1.3, or tells what is wrong. -/
def readCertificatesClassic (bs : Bytes) : Except Reason (List Bytes) :=
  match Cut.whole? (Cut.vector 3) bs with
  | none => .error .lengthMismatch
  | some list =>
    match Cut.row? (Cut.vector 3) list with
    | none => .error .certLengthMismatch
    | some ders => .ok ders

/-- Reads certificates in TLS 1.3 with the extensions of each, or tells what is wrong. -/
def readCertificatesModern (bs : Bytes) : Except Reason (List (Bytes × List Extension)) :=
  match Cut.whole? (do let _ ← Cut.vector 1; Cut.vector 3) bs with
  | none => .error .lengthMismatch
  | some list =>
    match Cut.row? (do return (← Cut.vector 3, ← Cut.vector 2)) list with
    | none => .error .certLengthMismatch
    | some entries =>
      match entries.mapM fun ((der, row) : Bytes × Bytes) =>
          (Extension.decodeRow? row).map fun xs => (der, xs) with
      | none => .error .badExtension
      | some entries => .ok entries

/-- A request for a certificate before TLS 1.3: kinds of keys, schemes, and names of authorities. -/
def requestClassic (withSchemes : Bool) (schemes : List UInt16) (names : List Bytes) : Bytes :=
  vectorBytes 1 [1, 2, 64] ++ (if withSchemes then vectorBytes 2 (wordsBytes schemes) else [])
    ++ vectorBytes 2 (names.flatMap (vectorBytes 2))

/-- Reads a request for a certificate before TLS 1.3: the schemes and the names. -/
def readRequestClassic? (withSchemes : Bool) : Bytes → Option (List UInt16 × List Bytes) :=
  Cut.whole? do
    let _ ← Cut.vector 1
    let schemes ← if withSchemes then Cut.vector 2 else pure []
    let names ← Cut.vector 2
    match Cut.row? Cut.word schemes, Cut.row? (Cut.vector 2) names with
    | some schemes, some names => return (schemes, names)
    | _, _ => failure

/-- A signature after the number of its scheme, which versions before TLS 1.2 leave out. -/
def signatureBytes (scheme : Option UInt16) (signature : Bytes) : Bytes :=
  (scheme.map wordBytes).getD [] ++ vectorBytes 2 signature

/-- Reads a signature after the number of its scheme. -/
def cutSignature (withScheme : Bool) : Cut (Option UInt16 × Bytes) := do
  let scheme ← if withScheme then some <$> Cut.word else pure none
  return (scheme, ← Cut.vector 2)

/-- A ticket: how long it lasts, and before TLS 1.3 nothing else but the ticket. -/
structure TicketMessage where
  lifetime : Nat
  ageAdd : Nat
  ticket : Bytes
  maxEarlyData : UInt32
  deriving Repr, DecidableEq

/-- A ticket before TLS 1.3. -/
def TicketMessage.encodeClassic (t : TicketMessage) : Bytes :=
  Bytes.ofNat 4 t.lifetime ++ vectorBytes 2 t.ticket

/-- A ticket in TLS 1.3, with the most early data that it is good for. -/
def TicketMessage.encodeModern (t : TicketMessage) : Bytes :=
  let early := if t.maxEarlyData = 0 then [] else
    [(Extension.earlyData, Bytes.ofNat 4 t.maxEarlyData.toNat)]
  Bytes.ofNat 4 t.lifetime ++ Bytes.ofNat 4 t.ageAdd ++ vectorBytes 1 (filler 8 0)
    ++ vectorBytes 2 t.ticket ++ Extension.encode early

/-- Reads a ticket before TLS 1.3. -/
def TicketMessage.readClassic? : Bytes → Option TicketMessage :=
  Cut.whole? do return ⟨← Cut.number 4, 0, ← Cut.vector 2, 0⟩

/-- Reads a ticket in TLS 1.3. -/
def TicketMessage.readModern? : Bytes → Option TicketMessage :=
  Cut.whole? do
    let lifetime ← Cut.number 4
    let ageAdd ← Cut.number 4
    let _ ← Cut.vector 1
    let ticket ← Cut.vector 2
    match Extension.decodeRow? (← Cut.vector 2) with
    | none => failure
    | some xs =>
      let early := ((findExtension xs Extension.earlyData).map Bytes.toNat).getD 0
      return ⟨lifetime, ageAdd, ticket, UInt32.ofNat early⟩

end SocketlessTls.Transparent
