import SocketlessTls.X509.Certificate

/-!
# Stapled status responses

A server may staple to its certificate a response about its status. The response is an enumerated
status and, if that is a success, a payload in an object of its own kind. Reading looks at the
outer shape; `SocketlessTls.Ocsp.Response.hasBasic` looks inside the payload.
-/

namespace SocketlessTls.Ocsp

/-- A status response: the number of its status, and the kind and contents of its payload. -/
structure Response where
  status : Int
  payload : Option (X509.ObjectId × Bytes)
  deriving Repr, DecidableEq

/-- The kind of a basic payload. -/
def basicObject : X509.ObjectId := [1, 3, 6, 1, 5, 5, 7, 48, 1, 1]

/-- Reads the payload of a response; the last part is its shortest encoding. -/
def payloadOf? (e : Asn1.Element) : Option ((X509.ObjectId × Bytes) × Bytes) := do
  let inner ← e.member? (.context 0)
  match ← inner.members? .sequence with
  | [object, contents] =>
    let bytes ← contents.primitive? .octetString
    let encoding := Asn1.encodeExplicit 0 <| Asn1.encodeSequence <|
      Asn1.encodeElement .objectId false object.content ++ Asn1.encodeOctets bytes
    return ((← object.object?, bytes), encoding)
  | _ => none

/-- Reads the status of a response, which takes one byte; the last part is its encoding. -/
def statusOf? (e : Asn1.Element) : Option (Int × Bytes) := do
  let content ← e.primitive? .enumerated
  if content.length = 1 then
    return (← Asn1.integerOfContent? content, Asn1.encodeElement .enumerated false content)
  else none

/-- Reads the response at the front of a byte string; the second part is its shortest encoding. -/
def Response.ofDer? (bs : Bytes) : Option (Response × Bytes) := do
  let (outer, _) ← Asn1.readElement? bs
  match ← outer.members? .sequence with
  | [status] =>
    let (status, encoding) ← statusOf? status
    return (⟨status, none⟩, Asn1.encodeSequence encoding)
  | [status, payload] =>
    let (status, first) ← statusOf? status
    let (payload, second) ← payloadOf? payload
    return (⟨status, some payload⟩, Asn1.encodeSequence (first ++ second))
  | _ => none

/-- The registered name of a status. -/
def Response.statusName (r : Response) : String :=
  match r.status with
  | 0 => "successful"
  | 1 => "malformedRequest"
  | 2 => "internalError"
  | 3 => "tryLater"
  | 5 => "sigRequired"
  | 6 => "unauthorized"
  | _ => "unknown"

/-! ### The basic payload -/

open Asn1

/-- Reads who answered: a name or the digest of a key. -/
def responderOf? (e : Element) : Option Unit := do
  match e.tag with
  | .context 1 =>
    let _ ← X509.Name.ofElement? (← e.member? (.context 1))
  | .context 2 =>
    let _ ← (← e.member? (.context 2)).primitive? .octetString
  | _ => none

/-- Reads the certificate that an answer is about: two digests and a serial number. -/
def certificateIdOf? (e : Element) : Option Unit := do
  match ← e.members? .sequence with
  | [algorithm, name, key, serial] =>
    let _ ← X509.algorithmOf? algorithm
    let _ ← name.primitive? .octetString
    let _ ← key.primitive? .octetString
    let _ ← serial.integer? .integer
  | _ => none

/-- Reads the status of one certificate: good, revoked, or unknown. -/
def certificateStatusOf? (e : Element) : Option Unit := do
  match e.tag with
  | .context 0 | .context 2 =>
    let content ← e.primitive? e.tag
    if content.isEmpty then some () else none
  | .context 1 =>
    match ← e.members? (.context 1) with
    | [moment] =>
      let _ ← X509.momentOf? moment
    | [moment, reason] =>
      let _ ← X509.momentOf? moment
      let _ ← (← reason.member? (.context 0)).integer? .enumerated
    | _ => none
  | _ => none

/-- Reads the optional extensions in the given explicit tag. -/
def extensionsField (number : Nat) : Fields Unit := do
  if let some e ← Fields.optional (.context number) then
    let inner ← Fields.lift (e.member? (.context number))
    let _ ← Fields.lift (inner.members? .sequence >>= (·.mapM X509.Extension.ofElement?))

/-- Reads one answer. -/
def singleAnswer : Fields Unit := do
  let _ ← Fields.lift (certificateIdOf? (← Fields.next))
  let _ ← Fields.lift (certificateStatusOf? (← Fields.next))
  let _ ← Fields.lift ((← Fields.next).primitive? .generalizedTime)
  if let some next ← Fields.optional (.context 0) then
    let _ ← Fields.lift (next.member? (.context 0) >>= (·.primitive? .generalizedTime))
  extensionsField 1

/-- Reads the signed part of a basic payload. -/
def answers : Fields Unit := do
  if let some version ← Fields.optional (.context 0) then
    let _ ← Fields.lift (version.member? (.context 0) >>= (·.integer? .integer))
  let _ ← Fields.lift (responderOf? (← Fields.next))
  let _ ← Fields.lift ((← Fields.next).primitive? .generalizedTime)
  let singles ← Fields.lift ((← Fields.next).members? .sequence)
  let _ ← Fields.lift (singles.mapM fun e => e.members? .sequence >>= singleAnswer.run?)
  extensionsField 1

/-- Reads a basic payload: the signed part, a signature, and perhaps certificates. -/
def basicPayload : Fields Unit := do
  let _ ← Fields.lift ((← Fields.next).members? .sequence >>= answers.run?)
  let _ ← Fields.lift (X509.algorithmOf? (← Fields.next))
  let _ ← Fields.lift ((← Fields.next).bits?)
  if let some e ← Fields.optional (.context 0) then
    let inner ← Fields.lift (e.member? (.context 0))
    let _ ← Fields.lift (inner.members? .sequence
      >>= (·.mapM fun c => X509.Certificate.ofDer? c.raw))

/-- Whether the payload is a basic one that reads. -/
def Response.hasBasic (r : Response) : Bool :=
  match r.payload with
  | none => false
  | some (object, contents) =>
    object = basicObject
      && ((readElement? contents).bind fun (e, _) =>
          e.members? .sequence >>= basicPayload.run?).isSome

end SocketlessTls.Ocsp
