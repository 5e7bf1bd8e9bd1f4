import SocketlessTls.Transparent.Message

/-!
# Where extensions may stand

Each extension may stand in some messages and not in others, and a reply may only carry what was
asked for. Extensions that are not known are passed over wherever they stand.

* `SocketlessTls.Transparent.Place.collect` – reads a row of extensions and checks their places.
-/

namespace SocketlessTls.Transparent

/-- A message that a client reads extensions from. -/
inductive Place where
  /-- The server's greeting before TLS 1.3. -/
  | classicHello
  /-- The server's greeting in TLS 1.3. -/
  | modernHello
  /-- A request to greet again. -/
  | retry
  | encryptedExtensions
  | certificate
  | certificateRequest
  | ticket
  deriving Repr, DecidableEq

/-- What was wrong with a message, and the alert that says so. -/
structure Complaint where
  alert : UInt8
  reason : Reason
  deriving Repr, DecidableEq

namespace Place

open Extension

/-- The places of the extensions that a client knows. -/
def table : List (UInt16 × List Place) :=
  [(renegotiation, [classicHello]),
   (serverName, [classicHello, encryptedExtensions]),
   (maxFragment, [classicHello, encryptedExtensions]),
   (srpUser, []),
   (pointFormats, [classicHello]),
   (supportedGroups, [classicHello, encryptedExtensions]),
   (sessionTicket, [classicHello]),
   (statusRequest, [classicHello, certificate, certificateRequest]),
   (nextProtocol, [classicHello]),
   (alpn, [classicHello, encryptedExtensions]),
   (datagramMedia, []),
   (encryptThenMac, [classicHello]),
   (signedTimestamps, [classicHello, certificate, certificateRequest]),
   (extendedSecret, [classicHello]),
   (certificateSchemes, [certificateRequest]),
   (laterAuthentication, []),
   (clientKeyKind, [classicHello, encryptedExtensions]),
   (serverKeyKind, [classicHello, encryptedExtensions]),
   (signatureAlgorithms, [certificateRequest]),
   (supportedVersions, [modernHello, retry]),
   (keyModes, []),
   (keyShare, [modernHello, retry]),
   (cookie, [retry]),
   (oldSuites, [classicHello]),
   (earlyData, [encryptedExtensions, ticket]),
   (certificateAuthorities, [certificateRequest]),
   (Extension.padding, []),
   (preSharedKey, [modernHello])]

/-- Whether an extension may stand in one of some places; one that is not known may. -/
def admits (places : List Place) (number : UInt16) : Bool :=
  match table.lookup number with
  | some allowed => places.any allowed.contains
  | none => true

/-- Whether a place holds what was not asked for, so that nothing there is unsolicited. -/
def isOpen (p : Place) : Bool := p = certificateRequest || p = ticket

/-- The extensions that may come without having been asked for. -/
def unasked : List UInt16 := [cookie, renegotiation, signedTimestamps]

/-- Goes through the extensions in order, and stops at the first that has no place, comes twice, or
was not asked for. -/
def check (places : List Place) (asked : List UInt16) :
    (seen : List UInt16) → List Extension → Except Complaint Unit
  | _, [] => .ok ()
  | seen, (number, _) :: rest =>
    let isKnown := (table.lookup number).isSome
    if !admits places number || (isKnown && seen.contains number) then
      .error ⟨AlertCode.illegalParameter, .badExtension⟩
    else if isKnown && !places.any isOpen && !unasked.contains number && !asked.contains number then
      .error ⟨AlertCode.unsupportedExtension, .unsolicitedExtension⟩
    else check places asked (number :: seen) rest

/-- The extensions at the front of a row, up to where it does not read any more, and whether all of
it reads. -/
def cutRow : (fuel : Nat) → Bytes → List Extension × Bool
  | 0, bs => ([], bs.isEmpty)
  | fuel + 1, bs =>
    if bs.isEmpty then ([], true)
    else
      match (do return (← Cut.word, ← Cut.vector 2) : Cut Extension).run bs with
      | none => ([], false)
      | some (x, rest) =>
        let (xs, complete) := cutRow fuel rest
        (x :: xs, complete)

/-- Reads a row of extensions in one of some places. -/
def collect (places : List Place) (asked : List UInt16) (row : Bytes) :
    Except Complaint (List Extension) := do
  let (xs, complete) := cutRow row.length row
  check places asked [] xs
  if complete then .ok xs else .error ⟨AlertCode.decodeError, .badExtension⟩

end Place

end SocketlessTls.Transparent
