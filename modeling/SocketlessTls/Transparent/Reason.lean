import SocketlessTls.Error

/-!
# What the engine reports

Every failure inside the engine has a number and, as a rule, words. Alerts that the peer sends are
reported by numbers of their own.

* `SocketlessTls.Transparent.Reason.ofAlert` – the report of a fatal alert;
* `SocketlessTls.Transparent.Reason.diagnostic` – a report as an entry.
-/

namespace SocketlessTls.Transparent

/-- The reason of a failure. -/
structure Reason where
  number : Nat
  words : Option String
  deriving Repr, DecidableEq

namespace Reason

/-- The engine's part that speaks the protocol, in the top bits of every number. -/
def libraryBits : Nat := 0x0a000000

/-- A reason as an entry of a report. -/
def diagnostic (r : Reason) : Diagnostic :=
  ⟨UInt64.ofNat (libraryBits + r.number), some "SSL routines", r.words⟩

/-- A failure of the transport that the engine does not explain. -/
def systemDiagnostic : Diagnostic := ⟨0x80000000, some "system library", none⟩

/-- Whether an entry speaks of the transport. -/
def isSystem (d : Diagnostic) : Bool := d.code &&& 0x80000000 ≠ 0

/-! ### Records -/

def httpRequest : Reason := ⟨0x9c, some "http request"⟩
def httpsProxyRequest : Reason := ⟨0x9b, some "https proxy request"⟩
def wrongVersionNumber : Reason := ⟨0x10b, some "wrong version number"⟩
def dataLengthTooLong : Reason := ⟨0x92, some "data length too long"⟩
def encryptedLengthTooLong : Reason := ⟨0x96, some "encrypted length too long"⟩
def badRecordType : Reason := ⟨0x1bb, some "bad record type"⟩
def badRecordMac : Reason := ⟨0x119, some "decryption failed or bad record mac"⟩
def recordTooSmall : Reason := ⟨0x12a, some "record too small"⟩
def invalidCcsMessage : Reason := ⟨0x104, some "invalid ccs message"⟩
def recordLayerFailure : Reason := ⟨0x139, some "record layer failure"⟩
def unexpectedRecord : Reason := ⟨0xf5, some "unexpected record"⟩
def unexpectedMessage : Reason := ⟨0xf4, some "unexpected message"⟩
def dataBetweenCcsAndFinished : Reason := ⟨0x91, some "data between ccs and finished"⟩
def ccsReceivedEarly : Reason := ⟨0x85, some "ccs received early"⟩
def badChangeCipherSpec : Reason := ⟨0x67, some "bad change cipher spec"⟩
def appDataInHandshake : Reason := ⟨0x64, some "app data in handshake"⟩
def applicationDataAfterCloseNotify : Reason :=
  ⟨0x13d, some "application data after close notify"⟩
def mixedHandshakeData : Reason := ⟨0x125, some "mixed handshake and non handshake data"⟩
def notOnRecordBoundary : Reason := ⟨0xb6, some "not on record boundary"⟩
def tooMuchEarlyData : Reason := ⟨0xa4, some "too much early data"⟩
def badLength : Reason := ⟨0x10f, some "bad length"⟩
def badWriteRetry : Reason := ⟨0x7f, some "bad write retry"⟩
def protocolIsShutdown : Reason := ⟨0xcf, some "protocol is shutdown"⟩
def shutdownWhileInInit : Reason := ⟨0x197, some "shutdown while in init"⟩

/-! ### Alerts -/

def invalidAlert : Reason := ⟨0xcd, some "invalid alert"⟩
def unknownAlertType : Reason := ⟨0xf6, some "unknown alert type"⟩
def tooManyWarnAlerts : Reason := ⟨0x199, some "too many warn alerts"⟩
def noRenegotiation : Reason := ⟨0x153, some "no renegotiation"⟩

/-- The words of the alerts that have some. -/
def alertWords : List (Nat × String) :=
  [(10, "ssl/tls alert unexpected message"), (20, "ssl/tls alert bad record mac"),
   (21, "tlsv1 alert decryption failed"), (22, "tlsv1 alert record overflow"),
   (30, "ssl/tls alert decompression failure"), (40, "ssl/tls alert handshake failure"),
   (41, "ssl/tls alert no certificate"), (42, "ssl/tls alert bad certificate"),
   (43, "ssl/tls alert unsupported certificate"), (44, "ssl/tls alert certificate revoked"),
   (45, "ssl/tls alert certificate expired"), (46, "ssl/tls alert certificate unknown"),
   (47, "ssl/tls alert illegal parameter"), (48, "tlsv1 alert unknown ca"),
   (49, "tlsv1 alert access denied"), (50, "tlsv1 alert decode error"),
   (51, "tlsv1 alert decrypt error"), (60, "tlsv1 alert export restriction"),
   (70, "tlsv1 alert protocol version"), (71, "tlsv1 alert insufficient security"),
   (80, "tlsv1 alert internal error"), (86, "tlsv1 alert inappropriate fallback"),
   (90, "tlsv1 alert user cancelled"), (100, "tlsv1 alert no renegotiation"),
   (109, "tlsv13 alert missing extension"), (110, "tlsv1 unsupported extension"),
   (111, "tlsv1 certificate unobtainable"), (112, "tlsv1 unrecognized name"),
   (113, "tlsv1 bad certificate status response"), (114, "tlsv1 bad certificate hash value"),
   (115, "tlsv1 alert unknown psk identity"), (116, "tlsv13 alert certificate required"),
   (120, "tlsv1 alert no application protocol")]

/-- The report of a fatal alert. -/
def ofAlert (description : UInt8) : Reason :=
  ⟨1000 + description.toNat, alertWords.lookup description.toNat⟩

/-! ### Handshake messages -/

def noProtocolsAvailable : Reason := ⟨0xbf, some "no protocols available"⟩
def noCiphersAvailable : Reason := ⟨0xb5, some "no ciphers available"⟩
def lengthMismatch : Reason := ⟨0x9f, some "length mismatch"⟩
def certLengthMismatch : Reason := ⟨0x87, some "cert length mismatch"⟩
def sessionIdTooLong : Reason := ⟨0x12c, some "ssl3 session id too long"⟩
def excessiveMessageSize : Reason := ⟨0x98, some "excessive message size"⟩
def badExtension : Reason := ⟨0x6e, some "bad extension"⟩
def unsolicitedExtension : Reason := ⟨0xd9, some "unsolicited extension"⟩
def badProtocolVersionNumber : Reason := ⟨0x74, some "bad protocol version number"⟩
def unsupportedProtocol : Reason := ⟨0x102, some "unsupported protocol"⟩
def wrongSslVersion : Reason := ⟨0x10a, some "wrong ssl version"⟩
def invalidCompressionAlgorithm : Reason := ⟨0x155, some "invalid compression algorithm"⟩
def unsupportedCompressionAlgorithm : Reason :=
  ⟨0x101, some "unsupported compression algorithm"⟩
def invalidSessionId : Reason := ⟨0x3e7, some "invalid session id"⟩
def sessionVersionMismatch : Reason := ⟨0xd2, some "ssl session version mismatch"⟩
def unknownCipherReturned : Reason := ⟨0xf8, some "unknown cipher returned"⟩
def wrongCipherReturned : Reason := ⟨0x105, some "wrong cipher returned"⟩
def oldSessionCipherNotReturned : Reason := ⟨0xd7, some "old session cipher not returned"⟩
def ciphersuiteDigestHasChanged : Reason := ⟨0xda, some "ciphersuite digest has changed"⟩
def legacyRenegotiationDisabled : Reason :=
  ⟨0x152, some "unsafe legacy renegotiation disabled"⟩
def renegotiationEncoding : Reason := ⟨0x150, some "renegotiation encoding err"⟩
def renegotiationMismatch : Reason := ⟨0x151, some "renegotiation mismatch"⟩
def certificateVerifyFailed : Reason := ⟨0x86, some "certificate verify failed"⟩
def unsupportedStatusType : Reason := ⟨0x149, some "unsupported status type"⟩
def unknownCertificateType : Reason := ⟨0xf7, some "unknown certificate type"⟩
def wrongCertificateType : Reason := ⟨0x17f, some "wrong certificate type"⟩
def wrongSignatureType : Reason := ⟨0x172, some "wrong signature type"⟩
def wrongCurve : Reason := ⟨0x17a, some "wrong curve"⟩
def badSignature : Reason := ⟨0x7b, some "bad signature"⟩
def badPskIdentity : Reason := ⟨0x72, some "bad psk identity"⟩
def noChangeFollowingHrr : Reason := ⟨0xd6, some "no change following hrr"⟩
def badKeyShare : Reason := ⟨0x6c, some "bad key share"⟩
def noSuitableKeyShare : Reason := ⟨0x65, some "no suitable key share"⟩
def badDigestLength : Reason := ⟨0x6f, some "bad digest length"⟩
def digestCheckFailed : Reason := ⟨0x95, some "digest check failed"⟩
def inconsistentEarlyDataAlpn : Reason := ⟨0xde, some "inconsistent early data alpn"⟩
def inconsistentEarlyDataSni : Reason := ⟨0xe7, some "inconsistent early data sni"⟩
def noSharedCipher : Reason := ⟨0xc1, some "no shared cipher"⟩
def noSuitableSignatureAlgorithm : Reason := ⟨0x76, some "no suitable signature algorithm"⟩
def noApplicationProtocol : Reason := ⟨0xeb, some "no application protocol"⟩
def peerDidNotReturnACertificate : Reason :=
  ⟨0xc7, some "peer did not return a certificate"⟩
def internalError : Reason := ⟨0xc0103, some "internal error"⟩
def shouldNotHaveBeenCalled : Reason := ⟨0xc0102, some "called a function you should not call"⟩

end Reason

/-! ### Alerts that are sent -/

namespace AlertCode

def closeNotify : UInt8 := 0
def unexpectedMessage : UInt8 := 10
def badRecordMac : UInt8 := 20
def recordOverflow : UInt8 := 22
def handshakeFailure : UInt8 := 40
def badCertificate : UInt8 := 42
def certificateExpired : UInt8 := 45
def illegalParameter : UInt8 := 47
def unknownCa : UInt8 := 48
def decodeError : UInt8 := 50
def decryptError : UInt8 := 51
def protocolVersion : UInt8 := 70
def internalError : UInt8 := 80
def userCancelled : UInt8 := 90
def noRenegotiation : UInt8 := 100
def missingExtension : UInt8 := 109
def unsupportedExtension : UInt8 := 110
def certificateRequired : UInt8 := 116
def noApplicationProtocol : UInt8 := 120

end AlertCode

end SocketlessTls.Transparent
