import SocketlessTls.Bytes
import SocketlessTls.Version

/-!
# Cipher suites

What is told about a cipher suite is its descriptor, `SocketlessTls.Cipher`. The suites that are
known stand here by number, with the parts that each is made of; the description in a descriptor is
laid out from them in columns. The suites offered when nothing is configured are
`SocketlessTls.Suite.defaultModern` for TLS 1.3 and `SocketlessTls.Suite.defaultClassic` before it,
both in order of preference.
-/

namespace SocketlessTls

/-! ### Descriptors -/

/-- The description of a cipher suite. -/
structure Cipher where
  /-- The engine's name of the suite. -/
  name : String
  /-- The registered name of the suite. -/
  standardName : Option String
  /-- The protocol version that introduced the suite. -/
  version : String
  /-- The number of secret key bits. -/
  bits : Int
  /-- The registered number of the suite. -/
  protocolId : UInt16
  /-- Key exchange, authentication, encryption and integrity in one line. -/
  description : String
  deriving Repr, DecidableEq

namespace Cipher

/-- The number of a suite as two bytes on the wire. -/
def idBytes (c : Cipher) : Bytes := Bytes.ofNat 2 c.protocolId.toNat

/-- A suite in short: its name, the version that introduced it, and its strength. -/
def text (c : Cipher) : String := s!"{c.name} ({c.version}, {c.bits} bits)"

end Cipher

/-! ### Suites -/

/-- How a suite agrees on a secret. -/
inductive KeyExchangeKind where
  | any | rsa | dhe | ecdhe | psk | dhePsk | rsaPsk | ecdhePsk | srp
  deriving Repr, DecidableEq

/-- How a suite authenticates the server. -/
inductive AuthKind where
  | any | rsa | ecdsa | dss | none | psk | srp
  deriving Repr, DecidableEq

/-- How a suite encrypts, with the length of the key where there is a choice. -/
inductive EncKind where
  | none
  | aesCbc (bits : Nat)
  | aesGcm (bits : Nat)
  | aesCcm (bits : Nat)
  | aesCcm8 (bits : Nat)
  | chaCha20
  | camellia (bits : Nat)
  | ariaGcm (bits : Nat)
  deriving Repr, DecidableEq

/-- How a suite protects records from change. -/
inductive MacKind where
  | aead | md5 | sha1 | sha256 | sha384
  deriving Repr, DecidableEq

/-- A cipher suite. -/
structure Suite where
  id : UInt16
  name : String
  standardName : String
  /-- The version that introduced the suite. -/
  since : Version
  kx : KeyExchangeKind
  auth : AuthKind
  enc : EncKind
  mac : MacKind
  deriving Repr, DecidableEq

/-! ### Descriptions -/

/-- The column of a key exchange. -/
def KeyExchangeKind.column : KeyExchangeKind → String
  | any => "any" | rsa => "RSA" | dhe => "DH" | ecdhe => "ECDH" | psk => "PSK"
  | dhePsk => "DHEPSK" | rsaPsk => "RSAPSK" | ecdhePsk => "ECDHEPSK" | srp => "SRP"

/-- The column of an authentication. -/
def AuthKind.column : AuthKind → String
  | any => "any" | rsa => "RSA" | ecdsa => "ECDSA" | dss => "DSS" | none => "None"
  | psk => "PSK" | srp => "SRP"

/-- The column of an encryption. -/
def EncKind.column : EncKind → String
  | none => "None"
  | aesCbc bits => s!"AES({bits})"
  | aesGcm bits => s!"AESGCM({bits})"
  | aesCcm bits => s!"AESCCM({bits})"
  | aesCcm8 bits => s!"AESCCM8({bits})"
  | chaCha20 => "CHACHA20/POLY1305(256)"
  | camellia bits => s!"Camellia({bits})"
  | ariaGcm bits => s!"ARIAGCM({bits})"

/-- The number of secret bits of an encryption; one with a short tag counts for little. -/
def EncKind.bits : EncKind → Nat
  | none => 0
  | aesCbc bits | aesGcm bits | aesCcm bits | camellia bits | ariaGcm bits => bits
  | aesCcm8 _ => 64
  | chaCha20 => 256

/-- The column of an integrity protection. -/
def MacKind.column : MacKind → String
  | aead => "AEAD" | md5 => "MD5" | sha1 => "SHA1" | sha256 => "SHA256" | sha384 => "SHA384"

/-- A column filled with blanks up to a width. -/
def column (width : Nat) (s : String) : String :=
  s ++ String.ofList (List.replicate (width - s.length) ' ')

/-- The version that introduced a suite, as the suite's own column writes it. -/
def sinceColumn : Version → String
  | .tls10 => "TLSv1"
  | v => v.name

/-- The parts of a suite in columns. -/
def Suite.description (s : Suite) : String :=
  s!"{column 30 s.name} {column 7 (sinceColumn s.since)} Kx={column 8 s.kx.column} "
    ++ s!"Au={column 5 s.auth.column} Enc={column 22 s.enc.column} Mac={s.mac.column}"

/-- What is told about a suite. -/
def Suite.cipher (s : Suite) : Cipher where
  name := s.name
  standardName := some s.standardName
  version := s.since.name
  bits := s.enc.bits
  protocolId := s.id
  description := s.description

/-! ### The suites -/

namespace Suite

/-- The suites of TLS 1.3. -/
def modern : List Suite :=
  [⟨0x1302, "TLS_AES_256_GCM_SHA384", "TLS_AES_256_GCM_SHA384",
    .tls13, .any, .any, .aesGcm 256, .aead⟩,
   ⟨0x1303, "TLS_CHACHA20_POLY1305_SHA256", "TLS_CHACHA20_POLY1305_SHA256",
    .tls13, .any, .any, .chaCha20, .aead⟩,
   ⟨0x1301, "TLS_AES_128_GCM_SHA256", "TLS_AES_128_GCM_SHA256",
    .tls13, .any, .any, .aesGcm 128, .aead⟩,
   ⟨0x1304, "TLS_AES_128_CCM_SHA256", "TLS_AES_128_CCM_SHA256",
    .tls13, .any, .any, .aesCcm 128, .aead⟩,
   ⟨0x1305, "TLS_AES_128_CCM_8_SHA256", "TLS_AES_128_CCM_8_SHA256",
    .tls13, .any, .any, .aesCcm8 128, .aead⟩]

/-- The suites before TLS 1.3 that are offered when nothing is configured. -/
def defaultClassic : List Suite :=
  [⟨0xc02c, "ECDHE-ECDSA-AES256-GCM-SHA384", "TLS_ECDHE_ECDSA_WITH_AES_256_GCM_SHA384",
    .tls12, .ecdhe, .ecdsa, .aesGcm 256, .aead⟩,
   ⟨0xc030, "ECDHE-RSA-AES256-GCM-SHA384", "TLS_ECDHE_RSA_WITH_AES_256_GCM_SHA384",
    .tls12, .ecdhe, .rsa, .aesGcm 256, .aead⟩,
   ⟨0x009f, "DHE-RSA-AES256-GCM-SHA384", "TLS_DHE_RSA_WITH_AES_256_GCM_SHA384",
    .tls12, .dhe, .rsa, .aesGcm 256, .aead⟩,
   ⟨0xcca9, "ECDHE-ECDSA-CHACHA20-POLY1305", "TLS_ECDHE_ECDSA_WITH_CHACHA20_POLY1305_SHA256",
    .tls12, .ecdhe, .ecdsa, .chaCha20, .aead⟩,
   ⟨0xcca8, "ECDHE-RSA-CHACHA20-POLY1305", "TLS_ECDHE_RSA_WITH_CHACHA20_POLY1305_SHA256",
    .tls12, .ecdhe, .rsa, .chaCha20, .aead⟩,
   ⟨0xccaa, "DHE-RSA-CHACHA20-POLY1305", "TLS_DHE_RSA_WITH_CHACHA20_POLY1305_SHA256",
    .tls12, .dhe, .rsa, .chaCha20, .aead⟩,
   ⟨0xc02b, "ECDHE-ECDSA-AES128-GCM-SHA256", "TLS_ECDHE_ECDSA_WITH_AES_128_GCM_SHA256",
    .tls12, .ecdhe, .ecdsa, .aesGcm 128, .aead⟩,
   ⟨0xc02f, "ECDHE-RSA-AES128-GCM-SHA256", "TLS_ECDHE_RSA_WITH_AES_128_GCM_SHA256",
    .tls12, .ecdhe, .rsa, .aesGcm 128, .aead⟩,
   ⟨0x009e, "DHE-RSA-AES128-GCM-SHA256", "TLS_DHE_RSA_WITH_AES_128_GCM_SHA256",
    .tls12, .dhe, .rsa, .aesGcm 128, .aead⟩,
   ⟨0xc024, "ECDHE-ECDSA-AES256-SHA384", "TLS_ECDHE_ECDSA_WITH_AES_256_CBC_SHA384",
    .tls12, .ecdhe, .ecdsa, .aesCbc 256, .sha384⟩,
   ⟨0xc028, "ECDHE-RSA-AES256-SHA384", "TLS_ECDHE_RSA_WITH_AES_256_CBC_SHA384",
    .tls12, .ecdhe, .rsa, .aesCbc 256, .sha384⟩,
   ⟨0x006b, "DHE-RSA-AES256-SHA256", "TLS_DHE_RSA_WITH_AES_256_CBC_SHA256",
    .tls12, .dhe, .rsa, .aesCbc 256, .sha256⟩,
   ⟨0xc023, "ECDHE-ECDSA-AES128-SHA256", "TLS_ECDHE_ECDSA_WITH_AES_128_CBC_SHA256",
    .tls12, .ecdhe, .ecdsa, .aesCbc 128, .sha256⟩,
   ⟨0xc027, "ECDHE-RSA-AES128-SHA256", "TLS_ECDHE_RSA_WITH_AES_128_CBC_SHA256",
    .tls12, .ecdhe, .rsa, .aesCbc 128, .sha256⟩,
   ⟨0x0067, "DHE-RSA-AES128-SHA256", "TLS_DHE_RSA_WITH_AES_128_CBC_SHA256",
    .tls12, .dhe, .rsa, .aesCbc 128, .sha256⟩,
   ⟨0xc00a, "ECDHE-ECDSA-AES256-SHA", "TLS_ECDHE_ECDSA_WITH_AES_256_CBC_SHA",
    .tls10, .ecdhe, .ecdsa, .aesCbc 256, .sha1⟩,
   ⟨0xc014, "ECDHE-RSA-AES256-SHA", "TLS_ECDHE_RSA_WITH_AES_256_CBC_SHA",
    .tls10, .ecdhe, .rsa, .aesCbc 256, .sha1⟩,
   ⟨0x0039, "DHE-RSA-AES256-SHA", "TLS_DHE_RSA_WITH_AES_256_CBC_SHA",
    .ssl3, .dhe, .rsa, .aesCbc 256, .sha1⟩,
   ⟨0xc009, "ECDHE-ECDSA-AES128-SHA", "TLS_ECDHE_ECDSA_WITH_AES_128_CBC_SHA",
    .tls10, .ecdhe, .ecdsa, .aesCbc 128, .sha1⟩,
   ⟨0xc013, "ECDHE-RSA-AES128-SHA", "TLS_ECDHE_RSA_WITH_AES_128_CBC_SHA",
    .tls10, .ecdhe, .rsa, .aesCbc 128, .sha1⟩,
   ⟨0x0033, "DHE-RSA-AES128-SHA", "TLS_DHE_RSA_WITH_AES_128_CBC_SHA",
    .ssl3, .dhe, .rsa, .aesCbc 128, .sha1⟩,
   ⟨0x00ad, "RSA-PSK-AES256-GCM-SHA384", "TLS_RSA_PSK_WITH_AES_256_GCM_SHA384",
    .tls12, .rsaPsk, .rsa, .aesGcm 256, .aead⟩,
   ⟨0x00ab, "DHE-PSK-AES256-GCM-SHA384", "TLS_DHE_PSK_WITH_AES_256_GCM_SHA384",
    .tls12, .dhePsk, .psk, .aesGcm 256, .aead⟩,
   ⟨0xccae, "RSA-PSK-CHACHA20-POLY1305", "TLS_RSA_PSK_WITH_CHACHA20_POLY1305_SHA256",
    .tls12, .rsaPsk, .rsa, .chaCha20, .aead⟩,
   ⟨0xccad, "DHE-PSK-CHACHA20-POLY1305", "TLS_DHE_PSK_WITH_CHACHA20_POLY1305_SHA256",
    .tls12, .dhePsk, .psk, .chaCha20, .aead⟩,
   ⟨0xccac, "ECDHE-PSK-CHACHA20-POLY1305", "TLS_ECDHE_PSK_WITH_CHACHA20_POLY1305_SHA256",
    .tls12, .ecdhePsk, .psk, .chaCha20, .aead⟩,
   ⟨0x009d, "AES256-GCM-SHA384", "TLS_RSA_WITH_AES_256_GCM_SHA384",
    .tls12, .rsa, .rsa, .aesGcm 256, .aead⟩,
   ⟨0x00a9, "PSK-AES256-GCM-SHA384", "TLS_PSK_WITH_AES_256_GCM_SHA384",
    .tls12, .psk, .psk, .aesGcm 256, .aead⟩,
   ⟨0xccab, "PSK-CHACHA20-POLY1305", "TLS_PSK_WITH_CHACHA20_POLY1305_SHA256",
    .tls12, .psk, .psk, .chaCha20, .aead⟩,
   ⟨0x00ac, "RSA-PSK-AES128-GCM-SHA256", "TLS_RSA_PSK_WITH_AES_128_GCM_SHA256",
    .tls12, .rsaPsk, .rsa, .aesGcm 128, .aead⟩,
   ⟨0x00aa, "DHE-PSK-AES128-GCM-SHA256", "TLS_DHE_PSK_WITH_AES_128_GCM_SHA256",
    .tls12, .dhePsk, .psk, .aesGcm 128, .aead⟩,
   ⟨0x009c, "AES128-GCM-SHA256", "TLS_RSA_WITH_AES_128_GCM_SHA256",
    .tls12, .rsa, .rsa, .aesGcm 128, .aead⟩,
   ⟨0x00a8, "PSK-AES128-GCM-SHA256", "TLS_PSK_WITH_AES_128_GCM_SHA256",
    .tls12, .psk, .psk, .aesGcm 128, .aead⟩,
   ⟨0x003d, "AES256-SHA256", "TLS_RSA_WITH_AES_256_CBC_SHA256",
    .tls12, .rsa, .rsa, .aesCbc 256, .sha256⟩,
   ⟨0x003c, "AES128-SHA256", "TLS_RSA_WITH_AES_128_CBC_SHA256",
    .tls12, .rsa, .rsa, .aesCbc 128, .sha256⟩,
   ⟨0xc038, "ECDHE-PSK-AES256-CBC-SHA384", "TLS_ECDHE_PSK_WITH_AES_256_CBC_SHA384",
    .tls10, .ecdhePsk, .psk, .aesCbc 256, .sha384⟩,
   ⟨0xc036, "ECDHE-PSK-AES256-CBC-SHA", "TLS_ECDHE_PSK_WITH_AES_256_CBC_SHA",
    .tls10, .ecdhePsk, .psk, .aesCbc 256, .sha1⟩,
   ⟨0xc021, "SRP-RSA-AES-256-CBC-SHA", "TLS_SRP_SHA_RSA_WITH_AES_256_CBC_SHA",
    .ssl3, .srp, .rsa, .aesCbc 256, .sha1⟩,
   ⟨0xc020, "SRP-AES-256-CBC-SHA", "TLS_SRP_SHA_WITH_AES_256_CBC_SHA",
    .ssl3, .srp, .srp, .aesCbc 256, .sha1⟩,
   ⟨0x00b7, "RSA-PSK-AES256-CBC-SHA384", "TLS_RSA_PSK_WITH_AES_256_CBC_SHA384",
    .tls10, .rsaPsk, .rsa, .aesCbc 256, .sha384⟩,
   ⟨0x00b3, "DHE-PSK-AES256-CBC-SHA384", "TLS_DHE_PSK_WITH_AES_256_CBC_SHA384",
    .tls10, .dhePsk, .psk, .aesCbc 256, .sha384⟩,
   ⟨0x0095, "RSA-PSK-AES256-CBC-SHA", "TLS_RSA_PSK_WITH_AES_256_CBC_SHA",
    .ssl3, .rsaPsk, .rsa, .aesCbc 256, .sha1⟩,
   ⟨0x0091, "DHE-PSK-AES256-CBC-SHA", "TLS_DHE_PSK_WITH_AES_256_CBC_SHA",
    .ssl3, .dhePsk, .psk, .aesCbc 256, .sha1⟩,
   ⟨0x0035, "AES256-SHA", "TLS_RSA_WITH_AES_256_CBC_SHA",
    .ssl3, .rsa, .rsa, .aesCbc 256, .sha1⟩,
   ⟨0x00af, "PSK-AES256-CBC-SHA384", "TLS_PSK_WITH_AES_256_CBC_SHA384",
    .tls10, .psk, .psk, .aesCbc 256, .sha384⟩,
   ⟨0x008d, "PSK-AES256-CBC-SHA", "TLS_PSK_WITH_AES_256_CBC_SHA",
    .ssl3, .psk, .psk, .aesCbc 256, .sha1⟩,
   ⟨0xc037, "ECDHE-PSK-AES128-CBC-SHA256", "TLS_ECDHE_PSK_WITH_AES_128_CBC_SHA256",
    .tls10, .ecdhePsk, .psk, .aesCbc 128, .sha256⟩,
   ⟨0xc035, "ECDHE-PSK-AES128-CBC-SHA", "TLS_ECDHE_PSK_WITH_AES_128_CBC_SHA",
    .tls10, .ecdhePsk, .psk, .aesCbc 128, .sha1⟩,
   ⟨0xc01e, "SRP-RSA-AES-128-CBC-SHA", "TLS_SRP_SHA_RSA_WITH_AES_128_CBC_SHA",
    .ssl3, .srp, .rsa, .aesCbc 128, .sha1⟩,
   ⟨0xc01d, "SRP-AES-128-CBC-SHA", "TLS_SRP_SHA_WITH_AES_128_CBC_SHA",
    .ssl3, .srp, .srp, .aesCbc 128, .sha1⟩,
   ⟨0x00b6, "RSA-PSK-AES128-CBC-SHA256", "TLS_RSA_PSK_WITH_AES_128_CBC_SHA256",
    .tls10, .rsaPsk, .rsa, .aesCbc 128, .sha256⟩,
   ⟨0x00b2, "DHE-PSK-AES128-CBC-SHA256", "TLS_DHE_PSK_WITH_AES_128_CBC_SHA256",
    .tls10, .dhePsk, .psk, .aesCbc 128, .sha256⟩,
   ⟨0x0094, "RSA-PSK-AES128-CBC-SHA", "TLS_RSA_PSK_WITH_AES_128_CBC_SHA",
    .ssl3, .rsaPsk, .rsa, .aesCbc 128, .sha1⟩,
   ⟨0x0090, "DHE-PSK-AES128-CBC-SHA", "TLS_DHE_PSK_WITH_AES_128_CBC_SHA",
    .ssl3, .dhePsk, .psk, .aesCbc 128, .sha1⟩,
   ⟨0x002f, "AES128-SHA", "TLS_RSA_WITH_AES_128_CBC_SHA",
    .ssl3, .rsa, .rsa, .aesCbc 128, .sha1⟩,
   ⟨0x00ae, "PSK-AES128-CBC-SHA256", "TLS_PSK_WITH_AES_128_CBC_SHA256",
    .tls10, .psk, .psk, .aesCbc 128, .sha256⟩,
   ⟨0x008c, "PSK-AES128-CBC-SHA", "TLS_PSK_WITH_AES_128_CBC_SHA",
    .ssl3, .psk, .psk, .aesCbc 128, .sha1⟩]

/-- The other suites before TLS 1.3, offered only by name. -/
def otherClassic : List Suite :=
  [⟨0x0002, "NULL-SHA", "TLS_RSA_WITH_NULL_SHA",
    .ssl3, .rsa, .rsa, .none, .sha1⟩,
   ⟨0x003b, "NULL-SHA256", "TLS_RSA_WITH_NULL_SHA256",
    .tls12, .rsa, .rsa, .none, .sha256⟩,
   ⟨0x0001, "NULL-MD5", "TLS_RSA_WITH_NULL_MD5",
    .ssl3, .rsa, .rsa, .none, .md5⟩,
   ⟨0x0032, "DHE-DSS-AES128-SHA", "TLS_DHE_DSS_WITH_AES_128_CBC_SHA",
    .ssl3, .dhe, .dss, .aesCbc 128, .sha1⟩,
   ⟨0x0038, "DHE-DSS-AES256-SHA", "TLS_DHE_DSS_WITH_AES_256_CBC_SHA",
    .ssl3, .dhe, .dss, .aesCbc 256, .sha1⟩,
   ⟨0x0040, "DHE-DSS-AES128-SHA256", "TLS_DHE_DSS_WITH_AES_128_CBC_SHA256",
    .tls12, .dhe, .dss, .aesCbc 128, .sha256⟩,
   ⟨0x006a, "DHE-DSS-AES256-SHA256", "TLS_DHE_DSS_WITH_AES_256_CBC_SHA256",
    .tls12, .dhe, .dss, .aesCbc 256, .sha256⟩,
   ⟨0x00a2, "DHE-DSS-AES128-GCM-SHA256", "TLS_DHE_DSS_WITH_AES_128_GCM_SHA256",
    .tls12, .dhe, .dss, .aesGcm 128, .aead⟩,
   ⟨0x00a3, "DHE-DSS-AES256-GCM-SHA384", "TLS_DHE_DSS_WITH_AES_256_GCM_SHA384",
    .tls12, .dhe, .dss, .aesGcm 256, .aead⟩,
   ⟨0x0034, "ADH-AES128-SHA", "TLS_DH_anon_WITH_AES_128_CBC_SHA",
    .ssl3, .dhe, .none, .aesCbc 128, .sha1⟩,
   ⟨0x003a, "ADH-AES256-SHA", "TLS_DH_anon_WITH_AES_256_CBC_SHA",
    .ssl3, .dhe, .none, .aesCbc 256, .sha1⟩,
   ⟨0x006c, "ADH-AES128-SHA256", "TLS_DH_anon_WITH_AES_128_CBC_SHA256",
    .tls12, .dhe, .none, .aesCbc 128, .sha256⟩,
   ⟨0x006d, "ADH-AES256-SHA256", "TLS_DH_anon_WITH_AES_256_CBC_SHA256",
    .tls12, .dhe, .none, .aesCbc 256, .sha256⟩,
   ⟨0x00a6, "ADH-AES128-GCM-SHA256", "TLS_DH_anon_WITH_AES_128_GCM_SHA256",
    .tls12, .dhe, .none, .aesGcm 128, .aead⟩,
   ⟨0x00a7, "ADH-AES256-GCM-SHA384", "TLS_DH_anon_WITH_AES_256_GCM_SHA384",
    .tls12, .dhe, .none, .aesGcm 256, .aead⟩,
   ⟨0xc09c, "AES128-CCM", "TLS_RSA_WITH_AES_128_CCM",
    .tls12, .rsa, .rsa, .aesCcm 128, .aead⟩,
   ⟨0xc09d, "AES256-CCM", "TLS_RSA_WITH_AES_256_CCM",
    .tls12, .rsa, .rsa, .aesCcm 256, .aead⟩,
   ⟨0xc0a0, "AES128-CCM8", "TLS_RSA_WITH_AES_128_CCM_8",
    .tls12, .rsa, .rsa, .aesCcm8 128, .aead⟩,
   ⟨0xc0a1, "AES256-CCM8", "TLS_RSA_WITH_AES_256_CCM_8",
    .tls12, .rsa, .rsa, .aesCcm8 256, .aead⟩,
   ⟨0xc09e, "DHE-RSA-AES128-CCM", "TLS_DHE_RSA_WITH_AES_128_CCM",
    .tls12, .dhe, .rsa, .aesCcm 128, .aead⟩,
   ⟨0xc09f, "DHE-RSA-AES256-CCM", "TLS_DHE_RSA_WITH_AES_256_CCM",
    .tls12, .dhe, .rsa, .aesCcm 256, .aead⟩,
   ⟨0xc0a2, "DHE-RSA-AES128-CCM8", "TLS_DHE_RSA_WITH_AES_128_CCM_8",
    .tls12, .dhe, .rsa, .aesCcm8 128, .aead⟩,
   ⟨0xc0a3, "DHE-RSA-AES256-CCM8", "TLS_DHE_RSA_WITH_AES_256_CCM_8",
    .tls12, .dhe, .rsa, .aesCcm8 256, .aead⟩,
   ⟨0xc0a4, "PSK-AES128-CCM", "TLS_PSK_WITH_AES_128_CCM",
    .tls12, .psk, .psk, .aesCcm 128, .aead⟩,
   ⟨0xc0a5, "PSK-AES256-CCM", "TLS_PSK_WITH_AES_256_CCM",
    .tls12, .psk, .psk, .aesCcm 256, .aead⟩,
   ⟨0xc0a8, "PSK-AES128-CCM8", "TLS_PSK_WITH_AES_128_CCM_8",
    .tls12, .psk, .psk, .aesCcm8 128, .aead⟩,
   ⟨0xc0a9, "PSK-AES256-CCM8", "TLS_PSK_WITH_AES_256_CCM_8",
    .tls12, .psk, .psk, .aesCcm8 256, .aead⟩,
   ⟨0xc0a6, "DHE-PSK-AES128-CCM", "TLS_DHE_PSK_WITH_AES_128_CCM",
    .tls12, .dhePsk, .psk, .aesCcm 128, .aead⟩,
   ⟨0xc0a7, "DHE-PSK-AES256-CCM", "TLS_DHE_PSK_WITH_AES_256_CCM",
    .tls12, .dhePsk, .psk, .aesCcm 256, .aead⟩,
   ⟨0xc0aa, "DHE-PSK-AES128-CCM8", "TLS_DHE_PSK_WITH_AES_128_CCM_8",
    .tls12, .dhePsk, .psk, .aesCcm8 128, .aead⟩,
   ⟨0xc0ab, "DHE-PSK-AES256-CCM8", "TLS_DHE_PSK_WITH_AES_256_CCM_8",
    .tls12, .dhePsk, .psk, .aesCcm8 256, .aead⟩,
   ⟨0xc0ac, "ECDHE-ECDSA-AES128-CCM", "TLS_ECDHE_ECDSA_WITH_AES_128_CCM",
    .tls12, .ecdhe, .ecdsa, .aesCcm 128, .aead⟩,
   ⟨0xc0ad, "ECDHE-ECDSA-AES256-CCM", "TLS_ECDHE_ECDSA_WITH_AES_256_CCM",
    .tls12, .ecdhe, .ecdsa, .aesCcm 256, .aead⟩,
   ⟨0xc0ae, "ECDHE-ECDSA-AES128-CCM8", "TLS_ECDHE_ECDSA_WITH_AES_128_CCM_8",
    .tls12, .ecdhe, .ecdsa, .aesCcm8 128, .aead⟩,
   ⟨0xc0af, "ECDHE-ECDSA-AES256-CCM8", "TLS_ECDHE_ECDSA_WITH_AES_256_CCM_8",
    .tls12, .ecdhe, .ecdsa, .aesCcm8 256, .aead⟩,
   ⟨0xc006, "ECDHE-ECDSA-NULL-SHA", "TLS_ECDHE_ECDSA_WITH_NULL_SHA",
    .tls10, .ecdhe, .ecdsa, .none, .sha1⟩,
   ⟨0xc010, "ECDHE-RSA-NULL-SHA", "TLS_ECDHE_RSA_WITH_NULL_SHA",
    .tls10, .ecdhe, .rsa, .none, .sha1⟩,
   ⟨0xc015, "AECDH-NULL-SHA", "TLS_ECDH_anon_WITH_NULL_SHA",
    .tls10, .ecdhe, .none, .none, .sha1⟩,
   ⟨0xc018, "AECDH-AES128-SHA", "TLS_ECDH_anon_WITH_AES_128_CBC_SHA",
    .tls10, .ecdhe, .none, .aesCbc 128, .sha1⟩,
   ⟨0xc019, "AECDH-AES256-SHA", "TLS_ECDH_anon_WITH_AES_256_CBC_SHA",
    .tls10, .ecdhe, .none, .aesCbc 256, .sha1⟩,
   ⟨0x002c, "PSK-NULL-SHA", "TLS_PSK_WITH_NULL_SHA",
    .ssl3, .psk, .psk, .none, .sha1⟩,
   ⟨0x002d, "DHE-PSK-NULL-SHA", "TLS_DHE_PSK_WITH_NULL_SHA",
    .ssl3, .dhePsk, .psk, .none, .sha1⟩,
   ⟨0x002e, "RSA-PSK-NULL-SHA", "TLS_RSA_PSK_WITH_NULL_SHA",
    .ssl3, .rsaPsk, .rsa, .none, .sha1⟩,
   ⟨0x00b0, "PSK-NULL-SHA256", "TLS_PSK_WITH_NULL_SHA256",
    .tls10, .psk, .psk, .none, .sha256⟩,
   ⟨0x00b1, "PSK-NULL-SHA384", "TLS_PSK_WITH_NULL_SHA384",
    .tls10, .psk, .psk, .none, .sha384⟩,
   ⟨0x00b4, "DHE-PSK-NULL-SHA256", "TLS_DHE_PSK_WITH_NULL_SHA256",
    .tls10, .dhePsk, .psk, .none, .sha256⟩,
   ⟨0x00b5, "DHE-PSK-NULL-SHA384", "TLS_DHE_PSK_WITH_NULL_SHA384",
    .tls10, .dhePsk, .psk, .none, .sha384⟩,
   ⟨0x00b8, "RSA-PSK-NULL-SHA256", "TLS_RSA_PSK_WITH_NULL_SHA256",
    .tls10, .rsaPsk, .rsa, .none, .sha256⟩,
   ⟨0x00b9, "RSA-PSK-NULL-SHA384", "TLS_RSA_PSK_WITH_NULL_SHA384",
    .tls10, .rsaPsk, .rsa, .none, .sha384⟩,
   ⟨0xc039, "ECDHE-PSK-NULL-SHA", "TLS_ECDHE_PSK_WITH_NULL_SHA",
    .tls10, .ecdhePsk, .psk, .none, .sha1⟩,
   ⟨0xc03a, "ECDHE-PSK-NULL-SHA256", "TLS_ECDHE_PSK_WITH_NULL_SHA256",
    .tls10, .ecdhePsk, .psk, .none, .sha256⟩,
   ⟨0xc03b, "ECDHE-PSK-NULL-SHA384", "TLS_ECDHE_PSK_WITH_NULL_SHA384",
    .tls10, .ecdhePsk, .psk, .none, .sha384⟩,
   ⟨0xc01f, "SRP-DSS-AES-128-CBC-SHA", "TLS_SRP_SHA_DSS_WITH_AES_128_CBC_SHA",
    .ssl3, .srp, .dss, .aesCbc 128, .sha1⟩,
   ⟨0xc022, "SRP-DSS-AES-256-CBC-SHA", "TLS_SRP_SHA_DSS_WITH_AES_256_CBC_SHA",
    .ssl3, .srp, .dss, .aesCbc 256, .sha1⟩,
   ⟨0x0041, "CAMELLIA128-SHA", "TLS_RSA_WITH_CAMELLIA_128_CBC_SHA",
    .ssl3, .rsa, .rsa, .camellia 128, .sha1⟩,
   ⟨0x0044, "DHE-DSS-CAMELLIA128-SHA", "TLS_DHE_DSS_WITH_CAMELLIA_128_CBC_SHA",
    .ssl3, .dhe, .dss, .camellia 128, .sha1⟩,
   ⟨0x0045, "DHE-RSA-CAMELLIA128-SHA", "TLS_DHE_RSA_WITH_CAMELLIA_128_CBC_SHA",
    .ssl3, .dhe, .rsa, .camellia 128, .sha1⟩,
   ⟨0x0046, "ADH-CAMELLIA128-SHA", "TLS_DH_anon_WITH_CAMELLIA_128_CBC_SHA",
    .ssl3, .dhe, .none, .camellia 128, .sha1⟩,
   ⟨0x0084, "CAMELLIA256-SHA", "TLS_RSA_WITH_CAMELLIA_256_CBC_SHA",
    .ssl3, .rsa, .rsa, .camellia 256, .sha1⟩,
   ⟨0x0087, "DHE-DSS-CAMELLIA256-SHA", "TLS_DHE_DSS_WITH_CAMELLIA_256_CBC_SHA",
    .ssl3, .dhe, .dss, .camellia 256, .sha1⟩,
   ⟨0x0088, "DHE-RSA-CAMELLIA256-SHA", "TLS_DHE_RSA_WITH_CAMELLIA_256_CBC_SHA",
    .ssl3, .dhe, .rsa, .camellia 256, .sha1⟩,
   ⟨0x0089, "ADH-CAMELLIA256-SHA", "TLS_DH_anon_WITH_CAMELLIA_256_CBC_SHA",
    .ssl3, .dhe, .none, .camellia 256, .sha1⟩,
   ⟨0x00ba, "CAMELLIA128-SHA256", "TLS_RSA_WITH_CAMELLIA_128_CBC_SHA256",
    .tls12, .rsa, .rsa, .camellia 128, .sha256⟩,
   ⟨0x00bd, "DHE-DSS-CAMELLIA128-SHA256", "TLS_DHE_DSS_WITH_CAMELLIA_128_CBC_SHA256",
    .tls12, .dhe, .dss, .camellia 128, .sha256⟩,
   ⟨0x00be, "DHE-RSA-CAMELLIA128-SHA256", "TLS_DHE_RSA_WITH_CAMELLIA_128_CBC_SHA256",
    .tls12, .dhe, .rsa, .camellia 128, .sha256⟩,
   ⟨0x00bf, "ADH-CAMELLIA128-SHA256", "TLS_DH_anon_WITH_CAMELLIA_128_CBC_SHA256",
    .tls12, .dhe, .none, .camellia 128, .sha256⟩,
   ⟨0x00c0, "CAMELLIA256-SHA256", "TLS_RSA_WITH_CAMELLIA_256_CBC_SHA256",
    .tls12, .rsa, .rsa, .camellia 256, .sha256⟩,
   ⟨0x00c3, "DHE-DSS-CAMELLIA256-SHA256", "TLS_DHE_DSS_WITH_CAMELLIA_256_CBC_SHA256",
    .tls12, .dhe, .dss, .camellia 256, .sha256⟩,
   ⟨0x00c4, "DHE-RSA-CAMELLIA256-SHA256", "TLS_DHE_RSA_WITH_CAMELLIA_256_CBC_SHA256",
    .tls12, .dhe, .rsa, .camellia 256, .sha256⟩,
   ⟨0x00c5, "ADH-CAMELLIA256-SHA256", "TLS_DH_anon_WITH_CAMELLIA_256_CBC_SHA256",
    .tls12, .dhe, .none, .camellia 256, .sha256⟩,
   ⟨0xc072, "ECDHE-ECDSA-CAMELLIA128-SHA256", "TLS_ECDHE_ECDSA_WITH_CAMELLIA_128_CBC_SHA256",
    .tls12, .ecdhe, .ecdsa, .camellia 128, .sha256⟩,
   ⟨0xc073, "ECDHE-ECDSA-CAMELLIA256-SHA384", "TLS_ECDHE_ECDSA_WITH_CAMELLIA_256_CBC_SHA384",
    .tls12, .ecdhe, .ecdsa, .camellia 256, .sha384⟩,
   ⟨0xc076, "ECDHE-RSA-CAMELLIA128-SHA256", "TLS_ECDHE_RSA_WITH_CAMELLIA_128_CBC_SHA256",
    .tls12, .ecdhe, .rsa, .camellia 128, .sha256⟩,
   ⟨0xc077, "ECDHE-RSA-CAMELLIA256-SHA384", "TLS_ECDHE_RSA_WITH_CAMELLIA_256_CBC_SHA384",
    .tls12, .ecdhe, .rsa, .camellia 256, .sha384⟩,
   ⟨0xc094, "PSK-CAMELLIA128-SHA256", "TLS_PSK_WITH_CAMELLIA_128_CBC_SHA256",
    .tls10, .psk, .psk, .camellia 128, .sha256⟩,
   ⟨0xc095, "PSK-CAMELLIA256-SHA384", "TLS_PSK_WITH_CAMELLIA_256_CBC_SHA384",
    .tls10, .psk, .psk, .camellia 256, .sha384⟩,
   ⟨0xc096, "DHE-PSK-CAMELLIA128-SHA256", "TLS_DHE_PSK_WITH_CAMELLIA_128_CBC_SHA256",
    .tls10, .dhePsk, .psk, .camellia 128, .sha256⟩,
   ⟨0xc097, "DHE-PSK-CAMELLIA256-SHA384", "TLS_DHE_PSK_WITH_CAMELLIA_256_CBC_SHA384",
    .tls10, .dhePsk, .psk, .camellia 256, .sha384⟩,
   ⟨0xc098, "RSA-PSK-CAMELLIA128-SHA256", "TLS_RSA_PSK_WITH_CAMELLIA_128_CBC_SHA256",
    .tls10, .rsaPsk, .rsa, .camellia 128, .sha256⟩,
   ⟨0xc099, "RSA-PSK-CAMELLIA256-SHA384", "TLS_RSA_PSK_WITH_CAMELLIA_256_CBC_SHA384",
    .tls10, .rsaPsk, .rsa, .camellia 256, .sha384⟩,
   ⟨0xc09a, "ECDHE-PSK-CAMELLIA128-SHA256", "TLS_ECDHE_PSK_WITH_CAMELLIA_128_CBC_SHA256",
    .tls10, .ecdhePsk, .psk, .camellia 128, .sha256⟩,
   ⟨0xc09b, "ECDHE-PSK-CAMELLIA256-SHA384", "TLS_ECDHE_PSK_WITH_CAMELLIA_256_CBC_SHA384",
    .tls10, .ecdhePsk, .psk, .camellia 256, .sha384⟩,
   ⟨0xc050, "ARIA128-GCM-SHA256", "TLS_RSA_WITH_ARIA_128_GCM_SHA256",
    .tls12, .rsa, .rsa, .ariaGcm 128, .aead⟩,
   ⟨0xc051, "ARIA256-GCM-SHA384", "TLS_RSA_WITH_ARIA_256_GCM_SHA384",
    .tls12, .rsa, .rsa, .ariaGcm 256, .aead⟩,
   ⟨0xc052, "DHE-RSA-ARIA128-GCM-SHA256", "TLS_DHE_RSA_WITH_ARIA_128_GCM_SHA256",
    .tls12, .dhe, .rsa, .ariaGcm 128, .aead⟩,
   ⟨0xc053, "DHE-RSA-ARIA256-GCM-SHA384", "TLS_DHE_RSA_WITH_ARIA_256_GCM_SHA384",
    .tls12, .dhe, .rsa, .ariaGcm 256, .aead⟩,
   ⟨0xc056, "DHE-DSS-ARIA128-GCM-SHA256", "TLS_DHE_DSS_WITH_ARIA_128_GCM_SHA256",
    .tls12, .dhe, .dss, .ariaGcm 128, .aead⟩,
   ⟨0xc057, "DHE-DSS-ARIA256-GCM-SHA384", "TLS_DHE_DSS_WITH_ARIA_256_GCM_SHA384",
    .tls12, .dhe, .dss, .ariaGcm 256, .aead⟩,
   ⟨0xc05c, "ECDHE-ECDSA-ARIA128-GCM-SHA256", "TLS_ECDHE_ECDSA_WITH_ARIA_128_GCM_SHA256",
    .tls12, .ecdhe, .ecdsa, .ariaGcm 128, .aead⟩,
   ⟨0xc05d, "ECDHE-ECDSA-ARIA256-GCM-SHA384", "TLS_ECDHE_ECDSA_WITH_ARIA_256_GCM_SHA384",
    .tls12, .ecdhe, .ecdsa, .ariaGcm 256, .aead⟩,
   ⟨0xc060, "ECDHE-ARIA128-GCM-SHA256", "TLS_ECDHE_RSA_WITH_ARIA_128_GCM_SHA256",
    .tls12, .ecdhe, .rsa, .ariaGcm 128, .aead⟩,
   ⟨0xc061, "ECDHE-ARIA256-GCM-SHA384", "TLS_ECDHE_RSA_WITH_ARIA_256_GCM_SHA384",
    .tls12, .ecdhe, .rsa, .ariaGcm 256, .aead⟩,
   ⟨0xc06a, "PSK-ARIA128-GCM-SHA256", "TLS_PSK_WITH_ARIA_128_GCM_SHA256",
    .tls12, .psk, .psk, .ariaGcm 128, .aead⟩,
   ⟨0xc06b, "PSK-ARIA256-GCM-SHA384", "TLS_PSK_WITH_ARIA_256_GCM_SHA384",
    .tls12, .psk, .psk, .ariaGcm 256, .aead⟩,
   ⟨0xc06c, "DHE-PSK-ARIA128-GCM-SHA256", "TLS_DHE_PSK_WITH_ARIA_128_GCM_SHA256",
    .tls12, .dhePsk, .psk, .ariaGcm 128, .aead⟩,
   ⟨0xc06d, "DHE-PSK-ARIA256-GCM-SHA384", "TLS_DHE_PSK_WITH_ARIA_256_GCM_SHA384",
    .tls12, .dhePsk, .psk, .ariaGcm 256, .aead⟩,
   ⟨0xc06e, "RSA-PSK-ARIA128-GCM-SHA256", "TLS_RSA_PSK_WITH_ARIA_128_GCM_SHA256",
    .tls12, .rsaPsk, .rsa, .ariaGcm 128, .aead⟩,
   ⟨0xc06f, "RSA-PSK-ARIA256-GCM-SHA384", "TLS_RSA_PSK_WITH_ARIA_256_GCM_SHA384",
    .tls12, .rsaPsk, .rsa, .ariaGcm 256, .aead⟩]

/-- The suites of TLS 1.3 that are offered when nothing is configured. -/
def defaultModern : List Suite := modern.take 3

/-- Every suite. -/
def all : List Suite := modern ++ defaultClassic ++ otherClassic

/-- The suite of a number. -/
def ofId? (id : UInt16) : Option Suite := all.find? (·.id = id)

/-- The numbers that stand in a list of suites and are none: the renegotiation signal and the
fallback signal. -/
def signals : List UInt16 := [0x00ff, 0x5600]

/-- Whether a number is known as a suite or as a signal. -/
def isKnownId (id : UInt16) : Bool := (ofId? id).isSome || signals.contains id

end Suite

end SocketlessTls
