import SocketlessTls.Policy.CipherText
import SocketlessTls.Transparent.Reason
import SocketlessTls.X509.PrivateKey

/-!
# Verifying certificates

A certificate is verified by building a chain from it: each next certificate is the one whose
subject is the issuer of the one before, and those that are trusted come before those that the peer
sent along. The chain is complete when it ends in a trusted certificate that issued itself. After
that the strength of the peer's key and the periods of validity count. Signatures are not looked
at, so a name stands for whoever bears it.

* `SocketlessTls.Transparent.Chain.build` – the chain and whether it is complete;
* `SocketlessTls.Transparent.verify` – what comes of verifying, and what is sent about a failure.
-/

namespace SocketlessTls.Transparent

open X509 (Certificate)

/-- What comes of verifying a certificate. -/
inductive Verification where
  | ok
  | notYetValid
  | expired
  | selfSignedLeaf
  | selfSignedInChain
  | issuerUnknown
  | keyTooWeak
  deriving Repr, DecidableEq

namespace Verification

/-- The number and the words of a result. -/
def row : Verification → Int × String
  | ok => (0, "ok")
  | notYetValid => (9, "certificate is not yet valid")
  | expired => (10, "certificate has expired")
  | selfSignedLeaf => (18, "self-signed certificate")
  | selfSignedInChain => (19, "self-signed certificate in certificate chain")
  | issuerUnknown => (20, "unable to get local issuer certificate")
  | keyTooWeak => (66, "EE certificate key too weak")

/-- Every result. -/
def all : List Verification :=
  [ok, notYetValid, expired, selfSignedLeaf, selfSignedInChain, issuerUnknown, keyTooWeak]

/-- The number of a result. -/
def code (v : Verification) : Int := v.row.1

/-- The words of a number. -/
def words (code : Int) : String :=
  match all.find? fun v => v.code = code with
  | some v => v.row.2
  | none => s!"error number {code}"

/-- The alert that a failure is answered with. -/
def alert : Verification → UInt8
  | expired => AlertCode.certificateExpired
  | notYetValid | keyTooWeak => AlertCode.badCertificate
  | _ => AlertCode.unknownCa

end Verification

/-- Whether a certificate issued itself. -/
def isSelfIssued (c : Certificate) : Bool := c.issuer = c.subject

/-- A chain, the peer's own certificate first, and whether it is complete. -/
structure Chain where
  certificates : List Certificate
  isTrusted : Bool
  deriving Repr, DecidableEq

/-- The chain of a certificate, at most `fuel` steps long. -/
def Chain.build (trusted sent : List Certificate) : (fuel : Nat) → Certificate → Chain
  | 0, c => ⟨[c], false⟩
  | fuel + 1, c =>
    if isSelfIssued c then ⟨[c], trusted.contains c⟩
    else
      match (trusted ++ sent).find? fun issuer => issuer.subject = c.issuer with
      | none => ⟨[c], false⟩
      | some issuer =>
        let rest := build trusted sent fuel issuer
        ⟨c :: rest.certificates, rest.isTrusted⟩

/-- The longest chain that is followed. -/
def maxChain : Nat := 100

/-- The moment at which periods of validity are checked. -/
def presentMoment : String := "20260101000000Z"

/-- Whether the present lies in a certificate's period of validity. -/
def validity (c : Certificate) : Verification :=
  if presentMoment < c.notBefore then .notYetValid
  else if c.notAfter < presentMoment then .expired
  else .ok

/-- Verifies a peer's certificate at a level of security, with the certificates that are trusted
and those that came with it. -/
def verify (level : Nat) (trusted sent : List Certificate) (leaf : Certificate) : Verification :=
  let chain := Chain.build trusted sent maxChain leaf
  if !chain.isTrusted then
    match chain.certificates.getLast? with
    | some last =>
      if !isSelfIssued last then .issuerUnknown
      else if chain.certificates.length = 1 then .selfSignedLeaf
      else .selfSignedInChain
    | none => .issuerUnknown
  else if leaf.publicKey.family.securityBits < Policy.levelBits level then .keyTooWeak
  else ((chain.certificates.reverse.map validity).find? (· ≠ .ok)).getD .ok

/-- What is sent along with a certificate: what was configured, or else the rest of its chain. -/
def chainToSend (configured trusted : List Certificate) (leaf : Certificate) : List Certificate :=
  if configured.isEmpty then (Chain.build trusted [] maxChain leaf).certificates
  else leaf :: configured

end SocketlessTls.Transparent
