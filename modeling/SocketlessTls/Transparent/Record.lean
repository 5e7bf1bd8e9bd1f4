import SocketlessTls.Suite
import SocketlessTls.Transparent.Reason
import SocketlessTls.Transparent.Wire

/-!
# Records

All traffic is cut into records: a header of five bytes with the type, a version and a length, and
the body. A protected record has the size that its suite gives it, but hides nothing: the content
stands in it as it is, and where the check value belongs there is a mark of the keys in use. A
record whose mark is another one has been protected by other keys, or by nobody.

* `SocketlessTls.Transparent.Protection.recordBytes` – a record with its header;
* `SocketlessTls.Transparent.Protection.open?` – the content of a protected body.
-/

namespace SocketlessTls.Transparent

/-- The type of a record. -/
abbrev ContentType := UInt8

namespace ContentType

def changeCipherSpec : ContentType := 20
def alert : ContentType := 21
def handshake : ContentType := 22
def applicationData : ContentType := 23

end ContentType

/-- The most content that a record holds. -/
def maxPlain : Nat := 16384

/-- The size of a record's header. -/
def headerSize : Nat := 5

/-- A header. -/
def header (type : ContentType) (version : UInt16) (length : Nat) : Bytes :=
  type :: wordBytes version ++ Bytes.ofNat 2 length

/-! ### Protection -/

/-- Which keys protect a record. -/
inductive Epoch where
  /-- The keys of versions before TLS 1.3. -/
  | classic
  | early
  | handshake
  | application
  deriving Repr, DecidableEq

/-- The byte that stands for the keys of an epoch. -/
def Epoch.mark : Epoch → UInt8
  | classic => 0xc0
  | early => 0xe1
  | handshake => 0xe2
  | application => 0xe3

/-- How a protected body is laid out. -/
inductive Shape where
  /-- The content with its type, then the check value. -/
  | modern (tag : Nat)
  /-- A part of the nonce, the content, the check value. -/
  | aead (nonce tag : Nat)
  /-- Blocks of sixteen bytes: perhaps a vector, the content, the check value, padding; the check
  value comes last if it covers what is encrypted. -/
  | blocks (vector : Bool) (mac : Nat) (macLast : Bool)
  deriving Repr, DecidableEq

/-- The size of a suite's check value. -/
def macSize : MacKind → Nat
  | .aead => 16
  | .md5 => 16
  | .sha1 => 20
  | .sha256 => 32
  | .sha384 => 48

/-- The size of the check value of an encryption that has its own. -/
def tagSize : EncKind → Nat
  | .aesCcm8 _ => 8
  | _ => 16

/-- The layout that a suite gives to records of TLS 1.3. -/
def Shape.ofModern (s : Suite) : Shape := .modern (tagSize s.enc)

/-- The layout that a suite gives to records before TLS 1.3. -/
def Shape.ofClassic (s : Suite) (v : Version) (macLast : Bool) : Shape :=
  match s.enc with
  | .chaCha20 => .aead 0 16
  | .aesGcm _ | .aesCcm _ | .aesCcm8 _ | .ariaGcm _ => .aead 8 (tagSize s.enc)
  | .none | .aesCbc _ | .camellia _ => .blocks (v != .tls10) (macSize s.mac) macLast

/-- How records of one direction are protected. -/
inductive Protection where
  | clear
  | sealed (epoch : Epoch) (shape : Shape)
  deriving Repr, DecidableEq

namespace Protection

/-- Padding to whole blocks: at least one byte, each with the number of the others. -/
def padding (length : Nat) : Bytes :=
  let n := 15 - length % 16
  filler (n + 1) (UInt8.ofNat n)

/-- The body of a protected record. -/
def body (e : Epoch) (shape : Shape) (type : ContentType) (content : Bytes) : Bytes :=
  match shape with
  | .modern tag => content ++ [type] ++ filler tag e.mark
  | .aead nonce tag => filler nonce 0 ++ content ++ filler tag e.mark
  | .blocks vector mac macLast =>
    let lead := if vector then filler 16 0 else []
    if macLast then lead ++ content ++ padding content.length ++ filler mac e.mark
    else lead ++ content ++ filler mac e.mark ++ padding (content.length + mac)

/-- One record with its header. -/
def singleRecord (p : Protection) (version : UInt16) (type : ContentType) (content : Bytes) :
    Bytes :=
  match p with
  | .clear => header type version content.length ++ content
  | .sealed e shape =>
    let body := body e shape type content
    match shape with
    | .modern _ => header .applicationData 0x0303 body.length ++ body
    | _ => header type version body.length ++ body

/-- A record with its header. Where blocks have no vector of their own, an empty record goes before
application data, so that nobody can choose the first block. -/
def recordBytes (p : Protection) (version : UInt16) (type : ContentType) (content : Bytes) :
    Bytes :=
  match p with
  | .sealed _ (.blocks false _ _) =>
    if type = .applicationData && !content.isEmpty then
      p.singleRecord version type [] ++ p.singleRecord version type content
    else p.singleRecord version type content
  | _ => p.singleRecord version type content

/-- What stands before a mark of so many bytes, if the mark is there. -/
def beforeMark? (e : Epoch) (n : Nat) (bs : Bytes) : Option Bytes :=
  if n ≤ bs.length ∧ bs.drop (bs.length - n) = filler n e.mark then
    some (bs.take (bs.length - n))
  else none

/-- What stands before the padding. -/
def beforePadding? (bs : Bytes) : Option Bytes := do
  let n := (← bs.getLast?).toNat + 1
  if n ≤ bs.length then some (bs.take (bs.length - n)) else none

/-- The content with its type, which is its last byte that is not zero. -/
def splitType? (bs : Bytes) : Option (ContentType × Bytes) :=
  match bs.reverse.dropWhile (· == 0) with
  | [] => none
  | type :: rest => some (type, rest.reverse)

/-- The type and content of a protected body. The type in front of the body counts only where the
body has none of its own. -/
def open? (e : Epoch) (shape : Shape) (type : ContentType) (bs : Bytes) :
    Option (ContentType × Bytes) :=
  match shape with
  | .modern tag => beforeMark? e tag bs >>= splitType?
  | .aead nonce tag =>
    if bs.length < nonce then none
    else (beforeMark? e tag (bs.drop nonce)).map fun content => (type, content)
  | .blocks vector mac macLast => do
    let lead := if vector then 16 else 0
    if bs.length < lead then none
    else
      let bs := bs.drop lead
      let content ←
        if macLast then beforeMark? e mac bs >>= beforePadding?
        else beforePadding? bs >>= beforeMark? e mac
      return (type, content)

end Protection

/-! ### Checking a header -/

/-- How the version in a header is checked. -/
inductive HeaderRule where
  /-- No version has been agreed on: any version of the family will do. -/
  | anyVersion
  /-- Exactly this version. -/
  | exactly (version : UInt16)
  deriving Repr, DecidableEq

/-- What is wrong with a record, with the alert that is sent about it, if one is. -/
structure RecordFault where
  alert : Option UInt8
  reason : Reason
  deriving Repr, DecidableEq

/-- A header taken apart: the type, the version and the length of the body. -/
structure Heading where
  type : ContentType
  version : UInt16
  length : Nat
  deriving Repr, DecidableEq

namespace Heading

/-- Takes a header apart. -/
def cut : Cut Heading := do return ⟨← Cut.byte, ← Cut.word, ← Cut.number 2⟩

/-- What the first five bytes look like if they are none of TLS. -/
def strangerReason (first : Bytes) : Reason :=
  let startsWith (s : String) : Bool := (Bytes.ofString s).isPrefixOf first
  if ["GET ", "POST ", "HEAD ", "PUT "].any startsWith then .httpRequest
  else if startsWith "CONNE" then .httpsProxyRequest
  else .wrongVersionNumber

/-- What is wrong with the header of a record in the clear. -/
def clearFault? (h : Heading) (raw : Bytes) (rule : HeaderRule) (isFirst : Bool) :
    Option RecordFault :=
  let tooLong :=
    if h.length > maxPlain then some ⟨some AlertCode.recordOverflow, .dataLengthTooLong⟩ else none
  match rule with
  | .anyVersion =>
    if h.version.toNat / 256 = 3 then tooLong
    else if isFirst then some ⟨none, strangerReason raw⟩
    else some ⟨some AlertCode.protocolVersion, .wrongVersionNumber⟩
  | .exactly v =>
    if h.version = v then tooLong
    else if h.version.toNat / 256 = 3 && h.type = .alert then some ⟨none, .wrongVersionNumber⟩
    else some ⟨some AlertCode.protocolVersion, .wrongVersionNumber⟩

/-- The most that protection adds to a record of TLS 1.3, and of earlier versions. -/
def modernExpansion : Nat := 256
def classicExpansion : Nat := 320

/-- What is wrong with the header of a protected record. -/
def sealedFault? (h : Heading) (shape : Shape) (version : UInt16) (plainAlerts : Bool)
    (firstHandshake : Bool) : Option RecordFault :=
  match shape with
  | .modern _ =>
    if h.type != .applicationData && !(h.type = .changeCipherSpec && firstHandshake)
        && !(h.type = .alert && plainAlerts) then
      some ⟨some AlertCode.unexpectedMessage, .badRecordType⟩
    else if h.version != 0x0303 then some ⟨some AlertCode.decodeError, .wrongVersionNumber⟩
    else if h.length > maxPlain + modernExpansion then
      some ⟨some AlertCode.recordOverflow, .encryptedLengthTooLong⟩
    else none
  | _ =>
    if h.version != version then
      some ⟨if h.version.toNat / 256 = 3 && h.type = .alert then none
        else some AlertCode.protocolVersion, .wrongVersionNumber⟩
    else if h.length > maxPlain + classicExpansion then
      some ⟨some AlertCode.recordOverflow, .encryptedLengthTooLong⟩
    else none

end Heading

end SocketlessTls.Transparent
