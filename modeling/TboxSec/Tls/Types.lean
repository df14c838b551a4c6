import Mathlib
import TboxSec.Canonical.Crypto
import TboxSec.ErrorCode
import TboxSec.Lib.Json
import TboxSec.Lib.OrdMap

/-!
# TLS credentials: data

The types of `tls_credential_provider.h` and what its operations take from elsewhere.

* `ProfileState` is one profile of the provider: its configuration, its status, its version and
  the material it serves. `TlsCredentialProvider` is the map of profiles with the process key
  and the boot epoch, both of which live as long as the process.
* `RefPayload` is the content of a `private_key_ref`. It travels as an encrypted JSON object.
* `X509Lib` is what the code takes from OpenSSL's certificate functions, and `Collaborators` what
  the key resolver, the material resolver, the HSM, the clock and the random source answer
  during one operation. Every operation reads the clock at most once.

Log output is left out, and of a profile its `key_usage`, which nothing reads.
-/

namespace TboxSec.Tls

/-! ### Enumerations -/

/-- `TlsCredentialStatus`. -/
inductive TlsCredentialStatus where
  | ready | notReady | expired | revoked | error
  deriving DecidableEq

/-- `SignatureAlgorithm`. -/
inductive SignatureAlgorithm where
  | unknown | ecdsaSecp256r1Sha256
  deriving DecidableEq

/-- The value of the enumerator. -/
def SignatureAlgorithm.toInt : SignatureAlgorithm → ℤ
  | .unknown => 0
  | .ecdsaSecp256r1Sha256 => 1

/-- The enumerator of a value cast to the 8-bit enumeration. A value that is none of them equals
no algorithm and has no counterpart here. -/
def SignatureAlgorithm.ofInt (n : ℤ) : Option SignatureAlgorithm :=
  if n % 256 = 0 then some .unknown
  else if n % 256 = 1 then some .ecdsaSecp256r1Sha256
  else none

@[simp]
theorem SignatureAlgorithm.ofInt_toInt (a : SignatureAlgorithm) : ofInt a.toInt = some a := by
  cases a <;> rfl

/-- `string_to_signature_algorithm`. -/
def SignatureAlgorithm.ofText (s : String) : SignatureAlgorithm :=
  if s = "ecdsa_secp256r1_sha256" then .ecdsaSecp256r1Sha256 else .unknown

/-- `KeyAlgorithm`. -/
inductive KeyAlgorithm where
  | unknown | ecdsaP256
  deriving DecidableEq

/-! ### Profiles -/

/-- `TlsProfileConfig`. -/
structure TlsProfileConfig where
  profileName : String := "mqtt"
  credentialId : String := "mqtt-primary"
  allowedSignatureAlgorithms : List SignatureAlgorithm := []
  peerService : String := "tbox-mqtt.service"
  notifyOnChange : Bool := true
  rootCaKey : String := "root_ca"
  clientCertChainKey : String := "device_cert_chain"
  refTtlSec : ℤ := 3600
  deriving DecidableEq

/-- `TlsCredentialProvider::ProfileState`. A reason code of `success` is the number 0. -/
structure ProfileState where
  config : TlsProfileConfig := {}
  status : TlsCredentialStatus := .notReady
  version : ℕ := 0
  reasonCode : ErrorCode := .success
  rootCaBundleDer : Bytes := []
  clientCertChainDer : Bytes := []
  notBefore : ℤ := 0
  notAfter : ℤ := 0
  keyAlgorithm : KeyAlgorithm := .ecdsaP256
  deriving DecidableEq

/-- `TlsCredentialProvider`. -/
structure TlsCredentialProvider where
  profiles : OrdMap String ProfileState := .empty
  processKey : Bytes := []
  bootEpoch : UInt64 := 0

/-! ### Requests and answers -/

/-- `PeerIdentity`, as far as it is read. -/
structure PeerIdentity where
  valid : Bool := false
  serviceName : String := ""
  deriving DecidableEq

/-- `TlsCredentialBundle`. The `private_key_ref` is its data. -/
structure TlsCredentialBundle where
  credentialId : String
  version : ℕ
  rootCaBundleDer : Bytes
  clientCertChainDer : Bytes
  privateKeyRef : Bytes
  keyAlgorithm : KeyAlgorithm
  notBefore : ℤ
  notAfter : ℤ
  status : TlsCredentialStatus
  deriving DecidableEq

/-- `TlsCredentialState`. -/
structure TlsCredentialState where
  credentialId : String
  version : ℕ
  status : TlsCredentialStatus
  reasonCode : ErrorCode
  deriving DecidableEq

/-- `TlsSignRequest`, as far as it is read. -/
structure TlsSignRequest where
  privateKeyRef : Bytes
  algorithm : SignatureAlgorithm := .unknown
  digest : Bytes
  deriving DecidableEq

/-- `TlsCredentialChangedEvent`. -/
structure TlsCredentialChangedEvent where
  profile : String
  credentialId : String
  version : ℕ
  status : TlsCredentialStatus
  reasonCode : ErrorCode
  deriving DecidableEq

/-- `TlsCredentialProvider::RefPayload`. -/
structure RefPayload where
  callerService : String
  profile : String
  credentialId : String
  version : ℕ
  keyId : String
  allowedAlgorithms : List SignatureAlgorithm
  bootEpoch : ℕ
  expiry : ℤ
  deriving DecidableEq

/-! ### Certificates -/

/-- What is read of an X.509 certificate. -/
structure Certificate where
  der : Bytes
  /-- `get_eku_oids`. -/
  ekuOids : List String := []
  notBefore : ℤ
  notAfter : ℤ
  /-- `get_raw_public_key`; empty when there is none. -/
  publicKey : Bytes := []
  /-- `is_ca_cert`. -/
  isCa : Bool := false
  deriving DecidableEq

/-- OpenSSL's readers of certificates. -/
structure X509Lib where
  /-- `PEM_read_bio_X509` until it fails. -/
  readPem : Bytes → List Certificate
  /-- `d2i_X509`. -/
  d2i : Bytes → Option Certificate

/-- `load_certs_from_string`. -/
def X509Lib.loadCerts (X : X509Lib) (content : Bytes) : List Certificate :=
  if content.isEmpty then []
  else if textBytes "-----BEGIN" <:+: content then X.readPem content
  else (X.d2i content).toList

/-- `certs_to_der_bundle`. -/
def derBundle (certs : List Certificate) : Bytes := certs.flatMap Certificate.der

/-- `now_in_range`. -/
def Certificate.ValidAt (c : Certificate) (now : ℤ) : Prop :=
  c.notBefore ≤ now ∧ now ≤ c.notAfter

instance (c : Certificate) (now : ℤ) : Decidable (c.ValidAt now) :=
  inferInstanceAs (Decidable (_ ∧ _))

/-! ### The environment of one operation -/

/-- A nonce of the cipher, `kGcmNonceLen` bytes long. -/
abbrev GcmNonce := {b : Bytes // b.length = 12}

/-- What an operation of the provider is answered. -/
structure Collaborators where
  /-- `material_resolver_`, if it is set. -/
  materialResolver : Option (String → Bytes) := none
  /-- `key_id_resolver_()`, empty if it is not set. -/
  keyId : String := ""
  /-- `hsm_->key_exists`. -/
  keyExists : String → Bool := fun _ => false
  /-- `hsm_->export_public_key`. -/
  exportPublicKey : String → ErrorCode × Bytes := fun _ => (.keyNotFound, [])
  /-- `hsm_->sign_digest`. -/
  signDigest : String → Bytes → ErrorCode × Bytes := fun _ _ => (.hsmSignFailed, [])
  /-- `X509_STORE_new` succeeds. -/
  storeNew : Bool := true
  /-- `X509_verify_cert` for the purpose `sslclient`: the trusted roots, the leaf and the
  untrusted certificates. -/
  verifyCert : List Certificate → Certificate → List Certificate → Bool := fun _ _ _ => false
  /-- `notify_` is set. -/
  notify : Bool := true
  /-- `std::time`. -/
  now : ℤ := 0
  /-- `RAND_bytes` for the nonce and the setting up of the cipher; `none` when one fails. -/
  nonce : Option GcmNonce := none

/-- What does not change during a process: the cipher, the JSON library and the certificate
readers. -/
structure Library where
  crypto : Crypto
  x509 : X509Lib
  /-- `json::dump`. -/
  dump : Json String → Bytes
  /-- `json::parse`. -/
  parse : Bytes → Option (Json String)

end TboxSec.Tls
