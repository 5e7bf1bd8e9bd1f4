import SocketlessTls.Asn1.Der
import SocketlessTls.Text.Utf8

/-!
# Distinguished names

A distinguished name is a row of attributes, each with a type and a value. A value carries the
kind of string it is encoded as; most kinds have a reading as text, and the certificate reader
refuses a value whose reading is ill formed.

* `SocketlessTls.X509.Name.oneLine` – every attribute as `/type=value`;
* `SocketlessTls.X509.Name.commonName` – the first common name.
-/

namespace SocketlessTls.X509

/-- An object identifier, by its arcs. -/
abbrev ObjectId := List Nat

namespace ObjectId

/-- The attribute type of a common name. -/
def commonName : ObjectId := [2, 5, 4, 3]

/-- The extension that holds alternative names. -/
def subjectAltName : ObjectId := [2, 5, 29, 17]

/-- The short names of attributes of directory entries, by their last arc under 2.5.4. -/
def directoryNames : List (Nat × String) :=
  [(3, "CN"), (4, "SN"), (5, "serialNumber"), (6, "C"), (7, "L"), (8, "ST"), (9, "street"),
   (10, "O"), (11, "OU"), (12, "title"), (13, "description"), (14, "searchGuide"),
   (15, "businessCategory"), (16, "postalAddress"), (17, "postalCode"), (18, "postOfficeBox"),
   (19, "physicalDeliveryOfficeName"), (20, "telephoneNumber"), (21, "telexNumber"),
   (22, "teletexTerminalIdentifier"), (23, "facsimileTelephoneNumber"), (24, "x121Address"),
   (25, "internationaliSDNNumber"), (26, "registeredAddress"), (27, "destinationIndicator"),
   (28, "preferredDeliveryMethod"), (29, "presentationAddress"),
   (30, "supportedApplicationContext"), (31, "member"), (32, "owner"), (33, "roleOccupant"),
   (34, "seeAlso"), (35, "userPassword"), (36, "userCertificate"), (37, "cACertificate"),
   (38, "authorityRevocationList"), (39, "certificateRevocationList"),
   (40, "crossCertificatePair"), (41, "name"), (42, "GN"), (43, "initials"),
   (44, "generationQualifier"), (45, "x500UniqueIdentifier"), (46, "dnQualifier"),
   (47, "enhancedSearchGuide"), (48, "protocolInformation"), (49, "distinguishedName"),
   (50, "uniqueMember"), (51, "houseIdentifier"), (52, "supportedAlgorithms"),
   (53, "deltaRevocationList"), (54, "dmdName"), (65, "pseudonym"), (72, "role"),
   (97, "organizationIdentifier"), (98, "c3"), (99, "n3"), (100, "dnsName")]

/-- The short names of pilot attributes, by their last arc under 0.9.2342.19200300.100.1. -/
def pilotNames : List (Nat × String) :=
  [(1, "UID"), (2, "textEncodedORAddress"), (3, "mail"), (4, "info"), (5, "favouriteDrink"),
   (6, "roomNumber"), (7, "photo"), (8, "userClass"), (9, "host"), (10, "manager"),
   (11, "documentIdentifier"), (12, "documentTitle"), (13, "documentVersion"),
   (14, "documentAuthor"), (15, "documentLocation"), (20, "homeTelephoneNumber"),
   (21, "secretary"), (22, "otherMailbox"), (23, "lastModifiedTime"), (24, "lastModifiedBy"),
   (25, "DC"), (26, "aRecord"), (27, "pilotAttributeType27"), (28, "mXRecord"), (29, "nSRecord"),
   (30, "sOARecord"), (31, "cNAMERecord"), (37, "associatedDomain"), (38, "associatedName"),
   (39, "homePostalAddress"), (40, "personalTitle"), (41, "mobileTelephoneNumber"),
   (42, "pagerTelephoneNumber"), (43, "friendlyCountryName"), (44, "uid"),
   (45, "organizationalStatus"), (46, "janetMailbox"), (47, "mailPreferenceOption"),
   (48, "buildingName"), (49, "dSAQuality"), (50, "singleLevelQuality"),
   (51, "subtreeMinimumQuality"), (52, "subtreeMaximumQuality"), (53, "personalSignature"),
   (54, "dITRedirect"), (55, "audio"), (56, "documentPublisher")]

/-- The short names of message-syntax attributes, by their last arc under 1.2.840.113549.1.9. -/
def messageNames : List (Nat × String) :=
  [(1, "emailAddress"), (2, "unstructuredName"), (3, "contentType"), (4, "messageDigest"),
   (5, "signingTime"), (6, "countersignature"), (7, "challengePassword"),
   (8, "unstructuredAddress"), (9, "extendedCertificateAttributes"), (14, "extReq"),
   (15, "SMIME-CAPS"), (20, "friendlyName"), (21, "localKeyID")]

/-- The short names of certificate extensions, by their last arc under 2.5.29. -/
def extensionNames : List (Nat × String) :=
  [(9, "subjectDirectoryAttributes"), (14, "subjectKeyIdentifier"), (15, "keyUsage"),
   (16, "privateKeyUsagePeriod"), (17, "subjectAltName"), (18, "issuerAltName"),
   (19, "basicConstraints"), (20, "crlNumber"), (21, "CRLReason"), (30, "nameConstraints"),
   (31, "crlDistributionPoints"), (32, "certificatePolicies"), (33, "policyMappings"),
   (35, "authorityKeyIdentifier"), (36, "policyConstraints"), (37, "extendedKeyUsage")]

/-- The short names of other objects. -/
def otherNames : List (ObjectId × String) :=
  [([1, 3, 6, 1, 4, 1, 311, 60, 2, 1, 1], "jurisdictionL"),
   ([1, 3, 6, 1, 4, 1, 311, 60, 2, 1, 2], "jurisdictionST"),
   ([1, 3, 6, 1, 4, 1, 311, 60, 2, 1, 3], "jurisdictionC"),
   ([1, 3, 6, 1, 5, 5, 7, 9, 1], "id-pda-dateOfBirth"),
   ([1, 3, 6, 1, 5, 5, 7, 9, 2], "id-pda-placeOfBirth"),
   ([1, 3, 6, 1, 5, 5, 7, 9, 3], "id-pda-gender"),
   ([1, 3, 6, 1, 5, 5, 7, 9, 4], "id-pda-countryOfCitizenship"),
   ([1, 3, 6, 1, 5, 5, 7, 9, 5], "id-pda-countryOfResidence"),
   ([1, 2, 643, 3, 131, 1, 1], "INN"), ([1, 2, 643, 100, 1], "OGRN"),
   ([1, 2, 643, 100, 3], "SNILS"),
   ([1, 2, 840, 113549, 1, 1, 1], "rsaEncryption"), ([1, 2, 840, 113549, 1, 1, 5], "RSA-SHA1"),
   ([1, 2, 840, 113549, 1, 1, 10], "RSASSA-PSS"), ([1, 2, 840, 113549, 1, 1, 11], "RSA-SHA256"),
   ([1, 2, 840, 113549, 1, 1, 12], "RSA-SHA384"), ([1, 2, 840, 113549, 1, 1, 13], "RSA-SHA512"),
   ([1, 2, 840, 10045, 2, 1], "id-ecPublicKey"), ([1, 2, 840, 10045, 3, 1, 7], "prime256v1"),
   ([1, 2, 840, 10045, 4, 1], "ecdsa-with-SHA1"),
   ([1, 2, 840, 10045, 4, 3, 2], "ecdsa-with-SHA256"),
   ([1, 2, 840, 10045, 4, 3, 3], "ecdsa-with-SHA384"),
   ([1, 2, 840, 10045, 4, 3, 4], "ecdsa-with-SHA512"),
   ([1, 3, 132, 0, 34], "secp384r1"), ([1, 3, 132, 0, 35], "secp521r1"),
   ([1, 3, 101, 112], "ED25519"), ([1, 3, 101, 113], "ED448"),
   ([2, 5], "X500"), ([2, 5, 4], "X509"), ([2, 5, 29], "id-ce")]

/-- The registered short name of an object. -/
def shortName? : ObjectId → Option String
  | [2, 5, 4, n] => directoryNames.lookup n
  | [2, 5, 29, n] => extensionNames.lookup n
  | [1, 2, 840, 113549, 1, 9, n] => messageNames.lookup n
  | [0, 9, 2342, 19200300, 100, 1, n] => pilotNames.lookup n
  | oid => otherNames.lookup oid

/-- The short name of an object; all objects without a registration share the name `UNDEF`. -/
def shortName (oid : ObjectId) : String := (shortName? oid).getD "UNDEF"

end ObjectId

/-! ### Values -/

/-- The kinds of string that an attribute's value may be encoded as. -/
inductive StringKind where
  /-- UTF-8. -/
  | utf8
  /-- One byte for each of the first 256 code points. -/
  | latin1
  /-- One byte for each code point, in a kind that takes no part in comparing names. -/
  | numeric
  /-- Two bytes for each code point. -/
  | twoByte
  /-- Four bytes for each code point. -/
  | fourByte
  /-- No text: bits, a nested sequence, or a kind that is not known. -/
  | opaqueBytes
  deriving Repr, DecidableEq

/-- An attribute's value: its kind, and its bytes (of a nested sequence, all of its encoding). -/
structure StringValue where
  kind : StringKind
  bytes : Bytes
  deriving Repr, DecidableEq

/-- A code point that is a character. -/
def scalar? (n : Nat) : Option Char :=
  if n < 0xD800 ∨ (0xDFFF < n ∧ n < 0x110000) then some (Char.ofNat n) else none

/-- Reads code points of two bytes each. -/
def twoByteText? : Bytes → Option (List Char)
  | [] => some []
  | a :: b :: rest => do return (← scalar? (Bytes.toNat [a, b])) :: (← twoByteText? rest)
  | _ => none

/-- Reads code points of four bytes each. -/
def fourByteText? : Bytes → Option (List Char)
  | [] => some []
  | a :: b :: c :: d :: rest => do
    return (← scalar? (Bytes.toNat [a, b, c, d])) :: (← fourByteText? rest)
  | _ => none

/-- The text of a value, if its kind has one and the value is well formed. -/
def StringValue.text? (v : StringValue) : Option String :=
  match v.kind with
  | .utf8 => Text.utf8? v.bytes
  | .latin1 | .numeric => some (String.ofList (v.bytes.map fun b => Char.ofNat b.toNat))
  | .twoByte => (twoByteText? v.bytes).map String.ofList
  | .fourByte => (fourByteText? v.bytes).map String.ofList
  | .opaqueBytes => none

/-- The text of a value, with a lenient reading of its bytes where there is none. -/
def StringValue.display (v : StringValue) : String := v.text?.getD (Text.utf8Lossy v.bytes)

/-- The kind of a string by the number of its tag; some numbers are refused. -/
def stringKind? : (number : Nat) → Option StringKind
  | 12 => some .utf8
  | 18 => some .numeric
  | 19 | 20 | 22 => some .latin1
  | 28 => some .fourByte
  | 30 => some .twoByte
  | 3 | 16 | 7 | 8 | 9 | 11 | 13 | 14 | 15 | 29 => some .opaqueBytes
  | _ => none

/-- Reads an attribute's value. A value whose kind has a text must have one. -/
def StringValue.ofElement? (e : Asn1.Element) : Option StringValue := do
  let .universal number := e.tag | none
  let kind ← stringKind? number
  let bytes ←
    if number = 3 then e.bits?
    else if number = 16 then if e.constructed then some e.raw else none
    else e.primitive? e.tag
  let value : StringValue := ⟨kind, bytes⟩
  if kind ≠ .opaqueBytes ∧ value.text?.isNone then none else return value

/-! ### Names -/

/-- One attribute of a name. -/
structure Attribute where
  type : ObjectId
  value : StringValue
  deriving Repr, DecidableEq

/-- A distinguished name. -/
structure Name where
  attributes : List Attribute
  deriving Repr, DecidableEq

/-- One attribute as `/type=value`, nothing escaped. -/
def Attribute.oneLine (a : Attribute) : String :=
  "/" ++ a.type.shortName ++ "=" ++ a.value.display

/-- Every attribute of a name as `/type=value`, in order. -/
def Name.oneLine (n : Name) : String := String.join (n.attributes.map Attribute.oneLine)

/-- The first common name, if it has a text. -/
def Name.commonName? (n : Name) : Option String :=
  n.attributes.find? (·.type = ObjectId.commonName) >>= (·.value.text?)

/-- The first common name, with `<undef>` for none. -/
def Name.commonName (n : Name) : String := n.commonName?.getD "<undef>"

/-- Reads one attribute. -/
def Attribute.ofElement? (e : Asn1.Element) : Option Attribute := do
  match ← e.members? .sequence with
  | [type, value] => return ⟨← type.object?, ← StringValue.ofElement? value⟩
  | _ => none

/-- Reads a name: a sequence of sets of attributes. -/
def Name.ofElement? (e : Asn1.Element) : Option Name := do
  let sets ← e.members? .sequence
  let attributes ← sets.mapM fun s => do (← s.members? .set).mapM Attribute.ofElement?
  return ⟨attributes.flatten⟩

end SocketlessTls.X509
