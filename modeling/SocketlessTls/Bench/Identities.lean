import SocketlessTls.Policy.Side

/-!
# Fixed identities

The certificates of a bench, each with its private key: two authorities, servers of several kinds
of key and of three periods of validity, a server that signed its own certificate, and clients.
They are kept as the lines of their armoured text.

* `SocketlessTls.Bench.Identity.ofName?` – the identity of a name.
-/

namespace SocketlessTls.Bench

/-- A certificate with its private key, both as lines of base 64. -/
structure Identity where
  name : String
  certificateLines : List String
  keyLines : List String
  deriving Repr, DecidableEq

namespace Identity

/-- A block of armoured text. -/
def armoured (label : String) (lines : List String) : String :=
  let framed := ["-----BEGIN " ++ label ++ "-----"] ++ lines ++ ["-----END " ++ label ++ "-----"]
  String.join (framed.map (· ++ "\n"))

/-- The certificate as armoured text. -/
def certificatePem (i : Identity) : String := armoured "CERTIFICATE" i.certificateLines

/-- The private key as armoured text. -/
def keyPem (i : Identity) : String := armoured "PRIVATE KEY" i.keyLines

/-- The certificate. -/
def certificate? (i : Identity) : Option X509.Certificate :=
  Policy.certificateOfPem? (Bytes.ofString i.certificatePem)

/-- The private key. -/
def key? (i : Identity) : Option X509.PrivateKey :=
  Policy.keyOfPem? (Bytes.ofString i.keyPem)

/-- The certificate with its key. -/
def credentials? (i : Identity) : Option (X509.Certificate × X509.PrivateKey) := do
  return (← i.certificate?, ← i.key?)

/-- The identity `ca`. -/
def ca : Identity where
  name := "ca"
  certificateLines := [
    "MIIBOTCB4KADAgECAgEBMAoGCCqGSM49BAMCMBoxGDAWBgNVBAMMD1BpcGV0bHMg",
    "VGVzdCBDQTAiGA8yMDAwMDEwMTAwMDAwMFoYDzk5OTkxMjMxMjM1OTU5WjAaMRgw",
    "FgYDVQQDDA9QaXBldGxzIFRlc3QgQ0EwWTATBgcqhkjOPQIBBggqhkjOPQMBBwNC",
    "AASPfknqOdhcu1hXNAyqtZmRJAQf9x0dQEUq420av5gXS6sHVAXZI4NNVTjzx3zD",
    "CSlf7FoCIdTKSqDrpnqGVZFqoxMwETAPBgNVHRMBAf8EBTADAQH/MAoGCCqGSM49",
    "BAMCA0gAMEUCIFnwqQ1M09nshT6whV68VLLIKOEm94hRitRX0x7H0MNVAiEA4ow8",
    "rgSa2WiX5OrM4QIIZzXdUGqs9atfaCEYOROJgHA="]
  keyLines := [
    "MIGHAgEAMBMGByqGSM49AgEGCCqGSM49AwEHBG0wawIBAQQgVrG5Rek8i1ILxjCk",
    "f+ktzjTKDxPlkJiasYAuv9zrdNqhRANCAASPfknqOdhcu1hXNAyqtZmRJAQf9x0d",
    "QEUq420av5gXS6sHVAXZI4NNVTjzx3zDCSlf7FoCIdTKSqDrpnqGVZFq"]

/-- The identity `ca2`. -/
def ca2 : Identity where
  name := "ca2"
  certificateLines := [
    "MIIBwDCCAWagAwIBAgIBAjAKBggqhkjOPQQDAjBdMQswCQYDVQQGEwJERTEPMA0G",
    "A1UECAwGQmF5ZXJuMRkwFwYDVQQKDBBHcsO2w59lICYgU8O2aG5lMQ4wDAYDVQQL",
    "DAVhL2I9YzESMBAGA1UEAwwJU2Vjb25kIENBMCIYDzIwMDAwMTAxMDAwMDAwWhgP",
    "OTk5OTEyMzEyMzU5NTlaMF0xCzAJBgNVBAYTAkRFMQ8wDQYDVQQIDAZCYXllcm4x",
    "GTAXBgNVBAoMEEdyw7bDn2UgJiBTw7ZobmUxDjAMBgNVBAsMBWEvYj1jMRIwEAYD",
    "VQQDDAlTZWNvbmQgQ0EwWTATBgcqhkjOPQIBBggqhkjOPQMBBwNCAASoLCshI3f2",
    "j73yyAS3x6EQAtA2gmJlp+pwlO70vLDmELnBqEDKiY1BiTs3Mktvit6rAwzJDBEM",
    "K7uu3nmmhar0oxMwETAPBgNVHRMBAf8EBTADAQH/MAoGCCqGSM49BAMCA0gAMEUC",
    "IFaPlb82m6H1gAhnm76M570FM3OQdIBkodx1ZvDXtnGgAiEA/pb/52p1+ml+kIDB",
    "KYo5bYpSaA7hTk/5EiG12WTCw5M="]
  keyLines := [
    "MIGHAgEAMBMGByqGSM49AgEGCCqGSM49AwEHBG0wawIBAQQg3U4OBRX4OebiS6TP",
    "ig+ZH7IgoGjPfxyq9NJY4Rdhar+hRANCAASoLCshI3f2j73yyAS3x6EQAtA2gmJl",
    "p+pwlO70vLDmELnBqEDKiY1BiTs3Mktvit6rAwzJDBEMK7uu3nmmhar0"]

/-- The identity `server-ec`. -/
def serverEc : Identity where
  name := "server-ec"
  certificateLines := [
    "MIIBUDCB96ADAgECAgEDMAoGCCqGSM49BAMCMBoxGDAWBgNVBAMMD1BpcGV0bHMg",
    "VGVzdCBDQTAiGA8yMDAwMDEwMTAwMDAwMFoYDzk5OTkxMjMxMjM1OTU5WjAUMRIw",
    "EAYDVQQDDAlsb2NhbGhvc3QwWTATBgcqhkjOPQIBBggqhkjOPQMBBwNCAASnEdiV",
    "KPCS53fL/NSBO5HAktN9/UaHxXFgYtyleIuTjUqSWB2Aoqg1bSd2QAWAvLGb7/8p",
    "2LDjbbZFbQQgUAQyozAwLjAsBgNVHREEJTAjgglsb2NhbGhvc3SHBH8AAAGHEAAA",
    "AAAAAAAAAAAAAAAAAAEwCgYIKoZIzj0EAwIDSAAwRQIhAK/JWbg5pxo6P9F8+Ph+",
    "DMMbF4AimIJL1SiQOoGruI1hAiBl4dIFFwp6XOVlfVOa7iiwHQam5Q8ocoyHW/fN",
    "j8bl0A=="]
  keyLines := [
    "MIGHAgEAMBMGByqGSM49AgEGCCqGSM49AwEHBG0wawIBAQQg2tO8BGWIU2rBX6RV",
    "0kq05F52P8AQi37jt/MtC9DOCUKhRANCAASnEdiVKPCS53fL/NSBO5HAktN9/UaH",
    "xXFgYtyleIuTjUqSWB2Aoqg1bSd2QAWAvLGb7/8p2LDjbbZFbQQgUAQy"]

/-- The identity `server-rsa`. -/
def serverRsa : Identity where
  name := "server-rsa"
  certificateLines := [
    "MIICBDCCAaqgAwIBAgIBBDAKBggqhkjOPQQDAjAaMRgwFgYDVQQDDA9QaXBldGxz",
    "IFRlc3QgQ0EwIhgPMjAwMDAxMDEwMDAwMDBaGA85OTk5MTIzMTIzNTk1OVowFDES",
    "MBAGA1UEAwwJbG9jYWxob3N0MIIBIjANBgkqhkiG9w0BAQEFAAOCAQ8AMIIBCgKC",
    "AQEAnL68aX/Eg9Y1IFM+le6oQ612s0C3rNYcct9hjXuX+8QmD/xAuoq9NWtHWWi1",
    "m2xCfw90W5PhJlfKDtjbWVc/ux8TJ2KP3pTR/Z4Cx81eolWJOWOX2iUHXXvtYL6e",
    "SLQSCrTEbCB7q+qq5Bl0pChv19usPF9TApoMJ0pKuwDf1tzeMwOq+Rr4IFTeO6MX",
    "F7o3x+MFNWwfnc0dAzn/JwZ/I0PkyurfMDiuIhUFFQ40qPRn17qVmKO0FRS7TC/t",
    "/+2cNnGofM69yKQil6zgXVjdl/RMOVkXE4HoH9XtP4b6J6kHvtZTyicCXOP/Xa6y",
    "txDtLnTyoUOW7gpSstnO8lpjIwIDAQABoxgwFjAUBgNVHREEDTALgglsb2NhbGhv",
    "c3QwCgYIKoZIzj0EAwIDSAAwRQIhAIzCxGqKqvgHbACLVt6nHAFnl29vt/1s3n61",
    "DTABVHrQAiBOSvdbjsxaWkiojjuY4TuAY+RO6RO1hE8CwurXV1NF1A=="]
  keyLines := [
    "MIIEvAIBADANBgkqhkiG9w0BAQEFAASCBKYwggSiAgEAAoIBAQCcvrxpf8SD1jUg",
    "Uz6V7qhDrXazQLes1hxy32GNe5f7xCYP/EC6ir01a0dZaLWbbEJ/D3Rbk+EmV8oO",
    "2NtZVz+7HxMnYo/elNH9ngLHzV6iVYk5Y5faJQdde+1gvp5ItBIKtMRsIHur6qrk",
    "GXSkKG/X26w8X1MCmgwnSkq7AN/W3N4zA6r5GvggVN47oxcXujfH4wU1bB+dzR0D",
    "Of8nBn8jQ+TK6t8wOK4iFQUVDjSo9GfXupWYo7QVFLtML+3/7Zw2cah8zr3IpCKX",
    "rOBdWN2X9Ew5WRcTgegf1e0/hvonqQe+1lPKJwJc4/9drrK3EO0udPKhQ5buClKy",
    "2c7yWmMjAgMBAAECggEAM1BiACu62uoyhD2cXJs/7MAJ/w7t0qBZueWVWyseC2cg",
    "itUrH6ax4J4ZQpT790DO2CfoEN7ts47D8G5gCPR+QbUfoSIsNVMFGAE1qdF67KwR",
    "+362RM0ghyM+CBD/Yo/I5EZfk4Ji2lo9zeTjgaZXTxR0Y2NVmqFx3x78LhJQNVef",
    "jMLNVsgTDhrduVKewCq3UK3gxTdM1NA9b8wpk2dcrzp88+e6L+FDAw1A2XzusA6/",
    "1ZNEdP6BUkESOasqsP6chBE7AdwEsj5T47jOPDa+p4HCJjs2ifZ3Xlim7WKuF9w+",
    "JHV7QxSGGGZMVm8ljfuQ6WIf9QJQh6ELSwmLtpUlwQKBgQDcHsvxP/+qPHZmvbjM",
    "xCXaoMgsawNbLfCMivbS79rF0SfukoIRbYteG9WzdGdEFuBpSeM0NCQeYwEctmps",
    "i5xD5BBgo9/fh3HJ+NQN1ngwwFvNZ9yCBC8K9Gy42f3bH6ys1nfKpHiHhbROS+G4",
    "8cGzeoXmscWA+oc3UL4cjm3bIQKBgQC2S2kibk/wI325fDd9OxDVDV2Hdhvy6Rnt",
    "aEQ00tkCtQXlv+N5m+24+V6eFy/MDxiKrdRlpi8o3f5TwD6cVcrOYV6bZNKtpApo",
    "iYEcce/zGz6zGq9R1UlfxFq9aSfbsVgHO4P+Uv1fLufB0DFrQQS8SWemlXyQX6sd",
    "oB7Wgb5ZwwKBgAE+/2KPPTBGhVkRi+FE3v382QU/WdaDTRBOnRUWnINwKqy0EZ5t",
    "o1NWDwCkEQ2Wn5CZBXs/LFEruE7kTXft1mWf/eO+Kb9HMgK1sOWfKDEGdb6U7u+h",
    "fG6wcYkeWsyJwl18HVN9WN1TiXDEBzQX0kPk1qs2qGqRgIB0qY7Z049hAoGAF+pw",
    "0pmSVzjwx6LqTL2xCaKFQL5YEFhQlHr3Z865tcc2DNxN5ah1Wa0toqP8G1Nnrtn7",
    "YZKZ4UyujyJLlIsU3lqb5NsnYKyCyRAxJiA0kLpkUW8QzTWkOLI0DWF8XzA3EkvW",
    "l0kgAJrQwPalZSLUkjc3J/24p+BFPM/C+/Vtma0CgYBOYvE11kMZs7rxM/IHtc5M",
    "q0gIhAzdKtraiQHA0sNUGzmtzPEs/gA3pKbe9vROiKLcv17vZn7ABw2cAXtyQjEQ",
    "G4tDLXWrrc/uTG8QNXF02n9p1S2AFp0i7JAejXRdJBkACNyjLsCK5YJoiKnN1PbD",
    "BkDLHhHBeJpapLY3mGje7A=="]

/-- The identity `server-ed25519`. -/
def serverEd25519 : Identity where
  name := "server-ed25519"
  certificateLines := [
    "MIIBGTCBwKADAgECAgEFMAoGCCqGSM49BAMCMBoxGDAWBgNVBAMMD1BpcGV0bHMg",
    "VGVzdCBDQTAiGA8yMDAwMDEwMTAwMDAwMFoYDzk5OTkxMjMxMjM1OTU5WjAVMRMw",
    "EQYDVQQDDAplZC5leGFtcGxlMCowBQYDK2VwAyEA96eXbR8JM//KTeqzhnS/zeZx",
    "rmO5iLuH06DQGO4GmTmjJzAlMCMGA1UdEQQcMBqCCmVkLmV4YW1wbGWCDCouZWQu",
    "ZXhhbXBsZTAKBggqhkjOPQQDAgNIADBFAiBcJxmBMWpO19c9HkS/teLSIYERHImh",
    "7F+SFuWKMh0qeQIhALrNpLpS6G4k55DyEY3vZt8YnQzjx1JQFBs/3e6OxyDZ"]
  keyLines := [
    "MC4CAQAwBQYDK2VwBCIEIIdFG8NTuZ+cSdSQ/JaicjQsOABYifpc9CerGviV6Vsp"]

/-- The identity `server-p384`. -/
def serverP384 : Identity where
  name := "server-p384"
  certificateLines := [
    "MIIBljCCATugAwIBAgIBBjAKBggqhkjOPQQDAjBdMQswCQYDVQQGEwJERTEPMA0G",
    "A1UECAwGQmF5ZXJuMRkwFwYDVQQKDBBHcsO2w59lICYgU8O2aG5lMQ4wDAYDVQQL",
    "DAVhL2I9YzESMBAGA1UEAwwJU2Vjb25kIENBMCIYDzIwMDAwMTAxMDAwMDAwWhgP",
    "OTk5OTEyMzEyMzU5NTlaMCoxCzAJBgNVBAYTAlVTMRswGQYDVQQKDBJObyBDb21t",
    "b24gTmFtZSBJbmMwdjAQBgcqhkjOPQIBBgUrgQQAIgNiAAQ5snc5eeZzfaW+Udvz",
    "0Tgqk6k221aD6IiRXP3DtEFFZ7nrxAQNq4gX59h6vEeb/JamlYD+uX1Iv8tsKUHP",
    "z3Mt01aUamqCyAJGXjfkPqCRnFXiFmPngHi5kcAl+FxXRQkwCgYIKoZIzj0EAwID",
    "SQAwRgIhAL7u++bFsZ8DVR2xLrIeY1Mjcyh+1JLW0JxElUQphhXtAiEAsn9VFY/S",
    "D6lWY5c+V7TENbQDeJ/rw/CedXtBZPIqSQw="]
  keyLines := [
    "MIG2AgEAMBAGByqGSM49AgEGBSuBBAAiBIGeMIGbAgEBBDC7j978iCEwbTUMRs6N",
    "2dhs3nRa6HpwFVt+07lvYmJIx3P3AtqeraxrkKHhsO5l1hqhZANiAAQ5snc5eeZz",
    "faW+Udvz0Tgqk6k221aD6IiRXP3DtEFFZ7nrxAQNq4gX59h6vEeb/JamlYD+uX1I",
    "v8tsKUHPz3Mt01aUamqCyAJGXjfkPqCRnFXiFmPngHi5kcAl+FxXRQk="]

/-- The identity `server-expired`. -/
def serverExpired : Identity where
  name := "server-expired"
  certificateLines := [
    "MIIBOTCB36ADAgECAgEHMAoGCCqGSM49BAMCMBoxGDAWBgNVBAMMD1BpcGV0bHMg",
    "VGVzdCBDQTAiGA8yMDAwMDEwMTAwMDAwMFoYDzIwMDEwMTAxMDAwMDAwWjAUMRIw",
    "EAYDVQQDDAlsb2NhbGhvc3QwWTATBgcqhkjOPQIBBggqhkjOPQMBBwNCAASBOSWp",
    "7M8ZkLrhopA5jkcMcqGIPwBr82Pmo59tCZezspY/KUCd9Aa9sEN4V/ObQMglfbiK",
    "KDI1jP3y52USahiwoxgwFjAUBgNVHREEDTALgglsb2NhbGhvc3QwCgYIKoZIzj0E",
    "AwIDSQAwRgIhAMNz6Mr0GySd6JpeOnFh2pGIFlFOJ6PxiOEYwBkI5Fm1AiEAor7Q",
    "QEwD6EuxlVbiN+76cKgE/d1N+VgIW8EDSvy4nwc="]
  keyLines := [
    "MIGHAgEAMBMGByqGSM49AgEGCCqGSM49AwEHBG0wawIBAQQghLroif62x0lk6cx9",
    "OqdD2LoqdKC8doe+Jssk7Oxjt1ChRANCAASBOSWp7M8ZkLrhopA5jkcMcqGIPwBr",
    "82Pmo59tCZezspY/KUCd9Aa9sEN4V/ObQMglfbiKKDI1jP3y52USahiw"]

/-- The identity `server-future`. -/
def serverFuture : Identity where
  name := "server-future"
  certificateLines := [
    "MIIBOTCB36ADAgECAgEIMAoGCCqGSM49BAMCMBoxGDAWBgNVBAMMD1BpcGV0bHMg",
    "VGVzdCBDQTAiGA85OTk4MDEwMTAwMDAwMFoYDzk5OTkxMjMxMjM1OTU5WjAUMRIw",
    "EAYDVQQDDAlsb2NhbGhvc3QwWTATBgcqhkjOPQIBBggqhkjOPQMBBwNCAARXUrtc",
    "6MY3VRzKFrusCYsKBgkpjJLw8GzdwAUrNQ+UBevUrFgA5wVqXkLu1THX3QbbniA6",
    "WW3G72sbTgmCF5juoxgwFjAUBgNVHREEDTALgglsb2NhbGhvc3QwCgYIKoZIzj0E",
    "AwIDSQAwRgIhANz1yGGlw6SRE9A+0VDriIwHLWdxR6RaUhuxi3O9K5WGAiEAydB7",
    "2MNi7e2kyFZxvE2U0dqgG0XXTtdd+q8wwbHbYbU="]
  keyLines := [
    "MIGHAgEAMBMGByqGSM49AgEGCCqGSM49AwEHBG0wawIBAQQg+TaMthe8bRuhSy3D",
    "QI0UVm3Z9MyqvfLnVTsqBwM/QMahRANCAARXUrtc6MY3VRzKFrusCYsKBgkpjJLw",
    "8GzdwAUrNQ+UBevUrFgA5wVqXkLu1THX3QbbniA6WW3G72sbTgmCF5ju"]

/-- The identity `self-signed`. -/
def selfSigned : Identity where
  name := "self-signed"
  certificateLines := [
    "MIIBHjCBxaADAgECAgEJMAoGCCqGSM49BAMCMBcxFTATBgNVBAMMDHNlbGYuZXhh",
    "bXBsZTAiGA8yMDAwMDEwMTAwMDAwMFoYDzk5OTkxMjMxMjM1OTU5WjAXMRUwEwYD",
    "VQQDDAxzZWxmLmV4YW1wbGUwWTATBgcqhkjOPQIBBggqhkjOPQMBBwNCAARcDCu8",
    "qjYoyabpT5NtBT4U36TpfnF1kgi7h4WgSsyJc5dxSZrcGmBDcpfecBFf+3oxglGK",
    "3XyNUGAA1FD1HOwGMAoGCCqGSM49BAMCA0gAMEUCIQD0yc3Yn5x7glKiI0RjbDFH",
    "mHdCLCYPt/k2X7pafO4HHgIgY7U6NMVevsESyU9J+ufApkjsvOv7yHCTCD2pJF2b",
    "bAk="]
  keyLines := [
    "MIGHAgEAMBMGByqGSM49AgEGCCqGSM49AwEHBG0wawIBAQQgakosMOoxdLLUhbqy",
    "0oA84Y+4NuI4YCOkATYwxTQvIW6hRANCAARcDCu8qjYoyabpT5NtBT4U36TpfnF1",
    "kgi7h4WgSsyJc5dxSZrcGmBDcpfecBFf+3oxglGK3XyNUGAA1FD1HOwG"]

/-- The identity `client`. -/
def client : Identity where
  name := "client"
  certificateLines := [
    "MIIBLTCB1KADAgECAgEKMAoGCCqGSM49BAMCMBoxGDAWBgNVBAMMD1BpcGV0bHMg",
    "VGVzdCBDQTAiGA8yMDAwMDEwMTAwMDAwMFoYDzk5OTkxMjMxMjM1OTU5WjAjMRAw",
    "DgYDVQQKDAdDbGllbnRzMQ8wDQYDVQQDDAZjbGllbnQwWTATBgcqhkjOPQIBBggq",
    "hkjOPQMBBwNCAATfbOfrdHVW9gaKf9KpYclUUOZZoyUxsCgyohtJvEnS6VoJmSJ1",
    "l/fl5nXIWFfD0P0psFZNF6nm0vSuHRzEASuvMAoGCCqGSM49BAMCA0gAMEUCICVx",
    "Xh3bdq2m5m8Akt5WPWAJAHTs02cwNB6lWCRVU+4yAiEAv6DADmYLlfgBbxtS3Igp",
    "YXt4+Sfv2rHHVmx+C4yFHB4="]
  keyLines := [
    "MIGHAgEAMBMGByqGSM49AgEGCCqGSM49AwEHBG0wawIBAQQgPaGzDwh5mQSwcz+1",
    "ZGlf5NESLEPsnkdhhNK9+iupT4WhRANCAATfbOfrdHVW9gaKf9KpYclUUOZZoyUx",
    "sCgyohtJvEnS6VoJmSJ1l/fl5nXIWFfD0P0psFZNF6nm0vSuHRzEASuv"]

/-- The identity `client-rsa`. -/
def clientRsa : Identity where
  name := "client-rsa"
  certificateLines := [
    "MIIB6jCCAZGgAwIBAgIBCzAKBggqhkjOPQQDAjAaMRgwFgYDVQQDDA9QaXBldGxz",
    "IFRlc3QgQ0EwIhgPMjAwMDAxMDEwMDAwMDBaGA85OTk5MTIzMTIzNTk1OVowFTET",
    "MBEGA1UEAwwKY2xpZW50IHJzYTCCASIwDQYJKoZIhvcNAQEBBQADggEPADCCAQoC",
    "ggEBAOZDuoV8glZiMP6QwbiZkMP+TiHA5uyPJ86N7/oXU6zQ3IaWuFupgeImQRQ+",
    "yfhWPF+zryuc7DELKg6Pl3Rc7kUQq9kOCrZu9RDNkAob/8MqK4qPL6D0mJUdOXc/",
    "7VKshUJLuNixbg6QFSYcMCOWygxYVJ2QQuWwsl4W1iSklvEwq+ti98BzuYEGOGg5",
    "b6CkJjo/sLUgAVPFOQJf5INk5FEAN7dRFiXuw2EYyKjhOuTEmvYdSX6Xx2eus+pB",
    "p2jvmOiqD7U+6/z+RMuqugJxyvRrvxJfFZ3s+lwGBfYE4lXz8eOtnNf8VAHU/MDc",
    "Lyb5DtgQe9t1ZbrvuA7yxVIS568CAwEAATAKBggqhkjOPQQDAgNHADBEAiB/19J+",
    "JkQV6vjEhRmzBJAY3upjoAl6v7vFcy/l84vOwwIgAt34eHHr1lpp/wZMz3bFX26T",
    "G1D3UxiuyS02719E4FI="]
  keyLines := [
    "MIIEvQIBADANBgkqhkiG9w0BAQEFAASCBKcwggSjAgEAAoIBAQDmQ7qFfIJWYjD+",
    "kMG4mZDD/k4hwObsjyfOje/6F1Os0NyGlrhbqYHiJkEUPsn4Vjxfs68rnOwxCyoO",
    "j5d0XO5FEKvZDgq2bvUQzZAKG//DKiuKjy+g9JiVHTl3P+1SrIVCS7jYsW4OkBUm",
    "HDAjlsoMWFSdkELlsLJeFtYkpJbxMKvrYvfAc7mBBjhoOW+gpCY6P7C1IAFTxTkC",
    "X+SDZORRADe3URYl7sNhGMio4TrkxJr2HUl+l8dnrrPqQado75joqg+1Puv8/kTL",
    "qroCccr0a78SXxWd7PpcBgX2BOJV8/HjrZzX/FQB1PzA3C8m+Q7YEHvbdWW677gO",
    "8sVSEuevAgMBAAECggEAGTmnN9NlhegY3PJnvnzYPphf39O9mIGwRzEGbpval06E",
    "MhxV0vjVWTx+maStRI7R61wIXxtARrkl4NV7Loy1r4w9fzhKFSU/pJkYY/sgQDWg",
    "8ntwKM5S3tcGQhmXOpzatmIMPHTnjSHcp0GkRmnQ9ZxBnMc+hOIgEC2pRPdg78gD",
    "gbmYey1mzySi3tUnWxwYltSI9IeVDAtyHhlKA6TiXWdkXD7sCPO4i9Mn4ZKB8sGN",
    "MeM7wB3WeEEXEXqu/uzVXTzsYNK9vmZbY8WCIUroXyeSSCsDdpIXKXP3nqqBL7SN",
    "ZDKomIpsrIFnksBJ9z/ZhB/Kp8ZYCEY/rAMCCoG3ZQKBgQD2h90KIy84TUgG0DzZ",
    "/rLajv9JNx4NsylVWc/lIJh3dkkS4Xh/vWMOT6ygCaX24pOcZPFsmV+JWUyB83qj",
    "pHSlKKSYUx7KekMM9iLfJP5BcEiPb2btMf3YnnME3mQfOHFDs9nfpt+44PUjFGMg",
    "DI7LtUe4ku+UOhkvsm57C9KozQKBgQDvG+uLIze0TBAiGhAVCzQ3geusQSzhS4ya",
    "vPYvz4VFbNjG5FAQfCFTEB0in5wgnAirAcLZDL4PcvhV6/JNpSTP6YQUmroT9Lkx",
    "cmha/O9nbP9+4DxLPN1m5VhYhMml9Ufg4dxyW70yo0mSGrq/2p0CuOhKopxA6NuG",
    "zQ/ZnYfCawKBgGzj18MJhWrV37F6utYCxNb6gFHDcZfVgbU8RTJMMmvZqC8ZvdKW",
    "QTFqCbJqcI7axx42C9jO6b7N3ZgshgfPtOHaUNEjLZ97XzBTa1Wqjk8zHCmWqByu",
    "jxPl8KG+5PRRRt4Di4FYwMp1OnFzKNFYGp5phLNG22FaRBOoOVpJ/5MlAoGBAMmC",
    "/j+Erq2EbRRQYr1Zc+hT1gqV4vz8bsL5/YDNo8OeuBLm15MNCgi2y9ciLLJOzf9Q",
    "vKWv132tpxzCfLJzO1L9uhKjU6790BWcFdaY1CqV8b07vZSq9uyA3LO9NTRoQuuD",
    "bgXyysCiXJ6FaF3IIArrStmbsZQCqwAwUetUl9WBAoGAPsH+6gqDpUV989WRkcsG",
    "N8Q/N2Ul/ilDSlZtS4cY92k+igAmPfLkjxmAyLf+ZGZb8kw6n/llMQyMh1UVyhTP",
    "L6apNNk3tY65tKXHUbNHL7/IQhEn1xV250sQYtoj6aICeFPzrBeZ+4DeIDt5ThMp",
    "yUnD6Nu+MqWiFuipO+Ods30="]

/-- The identity `client-weak`. -/
def clientWeak : Identity where
  name := "client-weak"
  certificateLines := [
    "MIIBaDCCAQ6gAwIBAgIBDDAKBggqhkjOPQQDAjAaMRgwFgYDVQQDDA9QaXBldGxz",
    "IFRlc3QgQ0EwIhgPMjAwMDAxMDEwMDAwMDBaGA85OTk5MTIzMTIzNTk1OVowFjEU",
    "MBIGA1UEAwwLY2xpZW50IHdlYWswgZ8wDQYJKoZIhvcNAQEBBQADgY0AMIGJAoGB",
    "AMYo1WDGULDo+O85MQaOedVW8Jml95tDXctavzwa/kHyj2+XqpM21bjp7adYwICu",
    "XK9v6yR/2XkjHjbiMIl0ZP0ZlMF1EKnsrsGPPaGnljJ/zdVpKT83sdU4f7Tw7A8i",
    "/qJtmsS2gvEu8JfFIvOwXk6iRq7LCq5DuKXIQBPsSXHfAgMBAAEwCgYIKoZIzj0E",
    "AwIDSAAwRQIhAJcizmmOlxvsIbpu9CFU0zaBwnd/FIa0dX9CSnOyZaigAiAtKLOg",
    "2p8dchSZQhfH69HWL+/A2BMHUP+95a34RVHxPw=="]
  keyLines := [
    "MIICdgIBADANBgkqhkiG9w0BAQEFAASCAmAwggJcAgEAAoGBAMYo1WDGULDo+O85",
    "MQaOedVW8Jml95tDXctavzwa/kHyj2+XqpM21bjp7adYwICuXK9v6yR/2XkjHjbi",
    "MIl0ZP0ZlMF1EKnsrsGPPaGnljJ/zdVpKT83sdU4f7Tw7A8i/qJtmsS2gvEu8JfF",
    "IvOwXk6iRq7LCq5DuKXIQBPsSXHfAgMBAAECgYBhTanBdIAo7q1WIro9IvcWWDOa",
    "7xFPz1ueQHhJFmQlk+r0+/+JfFKkE1Jca0tTpMrkZsuLR7BNOH5cquL0jBAODi9o",
    "ykmrymECQv3ozAXp0iAE13JC63JEqd2TOp6PxV0TMvynk+uOGWnHRwJdpCjlVzog",
    "s2EV9yehgyjDhF9puQJBAPe9pTj+PtgCgsR9cEVguhy8j/NDDSCkelC1r+BZGs48",
    "m7oHfa+thBD+OyKH9gZGFOIzbF0rh4lRtMbMSvtqNwsCQQDMxAjNkLgh7W5zTtf+",
    "aF4cfe/cah5ZGeAaW3HIxBDFVJWvKVQFRgFb1m8uE04d/qmEYpZdydI4X3FII2Tr",
    "6qT9AkEArZfDiFYO7wmDW++RleubPbubGpfnQPI/iwJkhM2rDMxHSmkpVso8+jNK",
    "eH3QlMDSrVXfHsH7rOsFwy8vc1AP1QJAZcGlfkJEvtd24+ZygALtgcszv50cp7qs",
    "G20GBncovmdiW0F2d4hqdHEDnyoIz+8V3qv/fWwmA82qRecQ6AwbIQJADVwfV9MX",
    "0ZLZLU9KGfECEByQJmZafnkUBDYamYTSjbAqvYXgL65Ekb82/RSwqJ5J1tuErSI8",
    "QDrBA4EUbHwWVQ=="]

/-- The identity `client-other`. -/
def clientOther : Identity where
  name := "client-other"
  certificateLines := [
    "MIIBZjCCAQ2gAwIBAgIBDTAKBggqhkjOPQQDAjBdMQswCQYDVQQGEwJERTEPMA0G",
    "A1UECAwGQmF5ZXJuMRkwFwYDVQQKDBBHcsO2w59lICYgU8O2aG5lMQ4wDAYDVQQL",
    "DAVhL2I9YzESMBAGA1UEAwwJU2Vjb25kIENBMCIYDzIwMDAwMTAxMDAwMDAwWhgP",
    "OTk5OTEyMzEyMzU5NTlaMBkxFzAVBgNVBAMMDmNsaWVudCBvZiBDQSAyMFkwEwYH",
    "KoZIzj0CAQYIKoZIzj0DAQcDQgAE+GM1a6Wc7+SrgTrTCNbOe+ZuKXzs946SW332",
    "P6PEapsv9GC4j4ODCZQmoPR7QYoqRyrr0U/c2Zp3rg+O/KaGgTAKBggqhkjOPQQD",
    "AgNHADBEAiBX/MyQpHkPAjspvbgdSaoj0qm/bFA+mRMVf1aB3Oc+bgIgF2yvM08G",
    "u572HcJ4j5BnnkP2qGEMK9Y+q+3EzIV5HrM="]
  keyLines := [
    "MIGHAgEAMBMGByqGSM49AgEGCCqGSM49AwEHBG0wawIBAQQglUqjfFPOzDCVylBb",
    "b1wN4nmzi6s5LaxrivsJQkBkpW6hRANCAAT4YzVrpZzv5KuBOtMI1s575m4pfOz3",
    "jpJbffY/o8Rqmy/0YLiPg4MJlCag9HtBiipHKuvRT9zZmneuD478poaB"]

/-- Every identity. -/
def all : List Identity :=
  [ca, ca2, serverEc, serverRsa, serverEd25519, serverP384,
   serverExpired, serverFuture, selfSigned, client, clientRsa, clientWeak, clientOther]

/-- The identity of a name. -/
def ofName? (name : String) : Option Identity := all.find? (·.name = name)

end Identity

end SocketlessTls.Bench
