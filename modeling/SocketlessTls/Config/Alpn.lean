import SocketlessTls.Error

/-!
# Application protocols

The protocols that a client offers, most preferred first. Each has one to 255 bytes, so that its
length fits in the one byte that stands before it on the wire.

* `SocketlessTls.Alpn.check` – which lists may be offered;
* `SocketlessTls.Alpn.encode` – a list on the wire;
* `SocketlessTls.Alpn.decode?` – reading it back.
-/

namespace SocketlessTls.Alpn

/-- Whether a protocol can be offered. -/
def isValid (protocol : String) : Bool :=
  1 ≤ protocol.utf8ByteSize && protocol.utf8ByteSize ≤ 255

/-- Why a list of protocols cannot be offered, if it cannot. -/
def check (protocols : List String) : Option ConfigError :=
  if protocols.isEmpty then some (.invalidAlpn "empty protocol list")
  else
    (protocols.find? fun p => !isValid p).map fun bad =>
      .invalidAlpn s!"protocol {Text.quoted bad} must be 1 to 255 bytes"

/-- Each protocol after one byte with its length. -/
def encodeItems (protocols : List Bytes) : Bytes :=
  protocols.flatMap fun p => UInt8.ofNat p.length :: p

/-- A list of protocols on the wire. -/
def encode (protocols : List String) : Bytes := encodeItems (protocols.map Bytes.ofString)

/-- Reads a list of protocols: a length, so many bytes, and so on to the end. -/
def decode? : Bytes → Option (List Bytes)
  | [] => some []
  | n :: rest =>
    if n.toNat ≤ rest.length then
      (decode? (rest.drop n.toNat)).map (rest.take n.toNat :: ·)
    else none
termination_by bs => bs.length
decreasing_by simp only [List.length_cons, List.length_drop]; omega

end SocketlessTls.Alpn
