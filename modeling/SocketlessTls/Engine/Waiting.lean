import SocketlessTls.Engine.Interface

/-!
# An engine that waits

The simplest engine there is: it starts in a given state, waits for bytes in every call, and has
nothing to tell. Other small engines are this one with some of its operations replaced.

* `SocketlessTls.Engine.waiting` – the engine.
-/

namespace SocketlessTls

/-- What a call reports that waits for bytes. -/
def wantsBytes : EngineFailure := ⟨ResultCode.wantRead, none, []⟩

/-- An engine that waits. -/
def Engine.waiting {σ : Type} (start : σ) : Engine σ where
  build? _ := some start
  prepare? _ _ s := some s
  attach? s := some s
  handshake s := .done (.failed wantsBytes, s)
  write _ s := .done (.failed wantsBytes, s)
  writeEarlyData _ s := .done (.failed wantsBytes, s)
  read _ s := .done (.failed wantsBytes, s)
  shutdown s := .done (.failed wantsBytes, s)
  renegotiate s := (true, s)
  discard _ := .done ()
  version _ := ⟨"", 0⟩
  pendingCipher _ := none
  currentCipher _ := none
  peerChain _ := none
  peerCertificate _ := none
  clientCaNames _ := []
  verifyResult _ := ⟨0, ""⟩
  signatureDigest _ := none
  signatureType _ := none
  session _ := none
  sessionReused _ := false
  ocspResponse _ := none
  compression _ := none
  alpnProtocol _ := none
  ephemeralKey _ := none
  secureRenegotiation _ := false
  earlyDataStatus _ := 0
  pendingBytes _ := 0
  stateText _ := ""
  cipherNames _ := []

end SocketlessTls
