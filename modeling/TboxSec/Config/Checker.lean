import Mathlib.Data.List.Infix
import TboxSec.Canonical.Crypto
import TboxSec.Lib.Ascii
import TboxSec.Lib.Report
import TboxSec.Lib.Yaml

/-!
# The configuration checker

`sec_config_checker` loads one document and checks it against a profile. Every check adds its
findings to the report; a value that is read as a text but is none throws, and nothing catches
this.

The conversions of scalars are those of the library that loads the document (`YamlCpp`).

* The tables `k…` are the keys that each section may have, and the names that are forbidden as
  secrets.
* A function `check…` reports about one section or one field, under the path that stands in its
  findings. The order is that of the source, so the reports agree line by line.
* `checkDocument` runs all of them, and `run` is the exit of the program: accepted means that
  nothing throws and no finding is an error.
-/

namespace TboxSec.Config

open Ascii Report

/-- The conversions of yaml-cpp. -/
structure YamlCpp where
  /-- An empty node is read as the text `null`. Not in every version. -/
  nullIsText : Bool
  /-- `as<int>` of a scalar. -/
  asInt : Bytes → Option ℤ
  /-- `as<bool>` of a scalar. -/
  asBool : Bytes → Option Bool

/-- `as<std::string>`. -/
def YamlCpp.asString (Y : YamlCpp) : Yaml → Option Bytes
  | .scalar text => some text
  | .null => if Y.nullIsText then some (textBytes "null") else none
  | _ => none

/-- `Profile`. -/
inductive Profile where
  | production
  | test
  deriving DecidableEq

/-- The severity of a finding. -/
inductive Severity where
  | error
  | warn
  deriving DecidableEq

/-- `Finding`. -/
structure Finding where
  severity : Severity
  rule : String
  fieldPath : Bytes
  message : Bytes

/-- `error`. -/
def error (rule : String) (field message : Bytes) : Report Finding :=
  emit ⟨.error, rule, field, message⟩

/-- `warn`. -/
def warn (rule : String) (field message : Bytes) : Report Finding :=
  emit ⟨.warn, rule, field, message⟩

/-! ### The known fields -/

def kAllowedTopLevel : List Bytes :=
  ["sec", "hsm", "key_provisioning", "cloud", "storage", "soft_key", "environment"].map textBytes

def kSecKeys : List Bytes :=
  ["ipc", "tls", "trusted_time", "business_key_provisioning"].map textBytes

def kSecIpcKeys : List Bytes := ["socket_path"].map textBytes

def kSecTlsKeys : List Bytes := ["dev_peer_service", "profiles"].map textBytes

def kSecTrustedTimeKeys : List Bytes :=
  ["provider", "platform", "hardware_rtc", "rollback_tolerance_ms", "peer_allowlist"].map textBytes

def kTrustedTimePlatformKeys : List Bytes :=
  ["enabled", "max_freshness_ms", "max_uncertainty_ms", "monitor_enabled", "time_client",
    "monitor_refresh_interval_ms", "lease_max_ms", "cache_max_age_ms", "auth"].map textBytes

def kTrustedTimeClientKeys : List Bytes := ["socket_path", "timeout_ms"].map textBytes

def kTrustedTimeAuthKeys : List Bytes :=
  ["require_evidence", "policy_versions", "approved_sources"].map textBytes

def kTrustedTimeRtcKeys : List Bytes := ["enabled", "require_provisioned"].map textBytes

def kBusinessKeyProvKeys : List Bytes :=
  ["enabled", "allowed_domains", "required_purposes", "allowed_envelope_formats",
    "allowed_wrapping_suites", "allowed_algorithms", "max_items", "max_wrapped_key_bytes",
    "request_timeout_ms", "peer_service"].map textBytes

def kTlsProfileKeys : List Bytes :=
  ["credential_id", "key_usage", "allowed_signature_algorithms", "peer_service",
    "notify_on_change", "ref_ttl_sec", "root_ca_source"].map textBytes

def kHsmKeys : List Bytes := ["type", "library_path"].map textBytes

def kKeyProvKeys : List Bytes := ["mode"].map textBytes

def kCloudKeys : List Bytes :=
  ["endpoint", "timeout_ms", "retry_count", "retry_delay_ms"].map textBytes

def kStorageKeys : List Bytes := ["state_file", "ca_cert", "cert_store"].map textBytes

def kSoftKeyKeys : List Bytes := ["path", "encryption_algo", "encryption_key_path"].map textBytes

def kEnvironmentKeys : List Bytes := ["is_production", "profile"].map textBytes

/-- The names of secrets, in lower case. -/
def kForbiddenSecretFields : List Bytes :=
  ["pin", "token", "handle", "private_key_ref", "private_key", "tls_secret", "secret", "kek",
    "password", "passphrase", "slot_secret"].map textBytes

/-! ### Texts -/

/-- `toLower`: `std::tolower` of every byte. -/
def toLower (s : Bytes) : Bytes := s.map lowerByte

/-- The bytes that `trim` takes away: ` \t\r\n`. -/
def isBlank (b : UInt8) : Bool := b = 0x20 ∨ b = 0x09 ∨ b = 0x0D ∨ b = 0x0A

/-- `trim`. -/
def trim (s : Bytes) : Bytes := ((s.dropWhile isBlank).reverse.dropWhile isBlank).reverse

/-- `s.find(sub) != npos`. -/
def contains (s sub : Bytes) : Bool := decide (sub <:+: s)

/-- `joinSet`, in the order of a set of strings. -/
def joinSet (s : List Bytes) : Bytes :=
  List.intercalate (textBytes ", ") (s.mergeSort fun a b => decide (a ≤ b))

/-- What comes after the last dot. -/
def lastSegment (fieldPath : Bytes) : Bytes :=
  (fieldPath.reverse.takeWhile (· ≠ 0x2E)).reverse

/-- `a + "." + b`. -/
def dot (a b : Bytes) : Bytes := a ++ [0x2E] ++ b

/-! ### Parts of checks -/

/-- A check of a node that is there and is a map. -/
def whenMap (node : Option Yaml) (f : Yaml → Report Finding) : Report Finding :=
  whenSome node fun n => if n.isMap then f n else pass

section Checks

variable (Y : YamlCpp) (profile : Profile)

/-- `isProduction`. -/
def isProduction : Bool := profile = .production

/-- `checkPath`. -/
def checkPath (fieldPath value : Bytes) : Report Finding :=
  if value = [] then pass
  else if contains value (textBytes "..") then
    error "path.no_traversal" fieldPath (textBytes "path must not contain '..'")
  else if contains value (textBytes "~") then
    error "path.no_personal_dir" fieldPath
      (textBytes "path must not reference personal/home directory")
  else if isProduction profile then
    if value.head? ≠ some 0x2F then
      error "path.production_absolute" fieldPath
        (textBytes "production profile requires absolute path")
    else
      let lower := toLower value
      if contains lower (textBytes "/build/") || contains lower (textBytes "/cmake-build") ||
          contains lower (textBytes "/build-") then
        warn "path.no_build_tree" fieldPath
          (textBytes "path references build tree (review before release)")
      else pass
  else pass

/-- `checkIntField`. -/
def checkIntField (parent : Yaml) (fieldPath : Bytes) (minVal maxVal : ℤ) : Report Finding :=
  whenSome (parent.find (lastSegment fieldPath)) fun n =>
    match n with
    | .scalar text =>
      match Y.asInt text with
      | some v =>
        if v < minVal ∨ v > maxVal then
          warn "schema.range" fieldPath (textBytes "value out of recommended range")
        else pass
      | none => error "schema.type" fieldPath (textBytes "must be an integer")
    | _ => error "schema.type" fieldPath (textBytes "must be an integer")

/-- `checkUnknownFields`. -/
def checkUnknownFields (node : Yaml) (known : List Bytes) (fieldPrefix : Bytes) :
    Report Finding :=
  forEach
    (fun e =>
      reading (Y.asString e.1) fun key =>
        if key ∉ known then
          warn "schema.unknown_field" (dot fieldPrefix key)
            (textBytes "unknown field (not in schema)")
        else pass)
    node.entries

/-- A check of a text without the blanks around it and in lower case. -/
def readingLower (n : Yaml) (f : Bytes → Report Finding) : Report Finding :=
  reading (Y.asString n) fun text => f (toLower (trim text))

/-- A path in the value of a field, if the field is there. -/
def checkPathField (parent : Yaml) (name : String) (fieldPath : Bytes) : Report Finding :=
  whenSome (parent.find (textBytes name)) fun n =>
    reading (Y.asString n) (checkPath profile fieldPath)

/-! ### The sections of a document -/

/-- `checkTopLevelKeys` of an entry. -/
def checkTopLevelKey (entry : Yaml × Yaml) : Report Finding :=
  reading (Y.asString entry.1) fun key =>
    if key = textBytes "common" then
      if isProduction profile then
        error "profile.no_toplevel_common" (textBytes "common")
          (textBytes <| "production profile forbids top-level 'common:' block " ++
            "(provided by BUILD /etc/tbox/common.yaml)")
      else pass
    else if key ∉ kAllowedTopLevel then
      warn "schema.unknown_field" key
        (textBytes "unknown top-level key (allowed: " ++ joinSet kAllowedTopLevel ++
          textBytes ")")
    else pass

/-- `checkTopLevelKeys`. -/
def checkTopLevelKeys (root : Yaml) : Report Finding :=
  forEach (checkTopLevelKey Y profile) root.entries

/-- What is said about a field that production requires. -/
def missing (fieldPath required warning : String) : Report Finding :=
  if isProduction profile then error "schema.required" (textBytes fieldPath) (textBytes required)
  else warn "schema.required" (textBytes fieldPath) (textBytes warning)

/-- `checkKeyProvisioning` of the value of `mode`. -/
def checkMode (mode : Yaml) : Report Finding :=
  readingLower Y mode fun modeStr =>
    if modeStr ≠ textBytes "hsm" ∧ modeStr ≠ textBytes "soft_file" then
      error "schema.allowed_values" (textBytes "key_provisioning.mode")
        (textBytes "must be one of: hsm, soft_file")
    else if isProduction profile ∧ modeStr = textBytes "soft_file" then
      error "profile.production_hsm_only" (textBytes "key_provisioning.mode")
        (textBytes "production profile only allows key_provisioning.mode=hsm")
    else pass

/-- `checkKeyProvisioning`. -/
def checkKeyProvisioning (root : Yaml) : Report Finding :=
  match (root.find (textBytes "key_provisioning")).filter Yaml.isMap with
  | none =>
    missing profile "key_provisioning"
      "key_provisioning section is required in production profile"
      "key_provisioning section missing (defaults to hsm)"
  | some kp =>
    checkUnknownFields Y kp kKeyProvKeys (textBytes "key_provisioning") ++
      match kp.find (textBytes "mode") with
      | none =>
        missing profile "key_provisioning.mode"
          "key_provisioning.mode is required in production profile"
          "key_provisioning.mode missing (defaults to hsm)"
      | some mode => checkMode Y profile mode

/-- `checkHsm` of the value of `type`. -/
def checkHsmType (type : Yaml) : Report Finding :=
  readingLower Y type fun t =>
    (if t ∉ ["", "software", "pkcs11", "trustzone"].map textBytes then
      error "schema.allowed_values" (textBytes "hsm.type")
        (textBytes "must be one of: software, pkcs11, trustzone (or empty)")
    else pass) ++
    if isProduction profile ∧ t = textBytes "software" then
      error "profile.production_hw_hsm_only" (textBytes "hsm.type")
        (textBytes <| "production profile forbids hsm.type=software " ++
          "(must be pkcs11/trustzone hardware backend)")
    else pass

/-- `checkHsm`. -/
def checkHsm (root : Yaml) : Report Finding :=
  whenMap (root.find (textBytes "hsm")) fun hsm =>
    checkUnknownFields Y hsm kHsmKeys (textBytes "hsm") ++
      whenSome (hsm.find (textBytes "type")) (checkHsmType Y profile) ++
      checkPathField Y profile hsm "library_path" (textBytes "hsm.library_path")

/-- `checkSoftKey`. -/
def checkSoftKey (root : Yaml) : Report Finding :=
  whenSome (root.find (textBytes "soft_key")) fun sk =>
    if isProduction profile then
      error "profile.production_no_soft_key" (textBytes "soft_key")
        (textBytes "production profile forbids the entire soft_key section")
    else if sk.isMap then
      checkUnknownFields Y sk kSoftKeyKeys (textBytes "soft_key") ++
        checkPathField Y profile sk "path" (textBytes "soft_key.path") ++
        checkPathField Y profile sk "encryption_key_path"
          (textBytes "soft_key.encryption_key_path")
    else pass

/-- `checkBusinessKeyProvisioning`. -/
def checkBusinessKeyProvisioning (bkp : Yaml) : Report Finding :=
  if bkp.isMap then
    checkUnknownFields Y bkp kBusinessKeyProvKeys (textBytes "sec.business_key_provisioning") ++
      whenSome (bkp.find (textBytes "enabled")) (fun enabled =>
        if enabled.isScalar then pass
        else
          error "schema.type" (textBytes "sec.business_key_provisioning.enabled")
            (textBytes "must be a boolean")) ++
      checkIntField Y bkp (textBytes "sec.business_key_provisioning.max_items") 1 16 ++
      checkIntField Y bkp (textBytes "sec.business_key_provisioning.max_wrapped_key_bytes") 64
        65536 ++
      checkIntField Y bkp (textBytes "sec.business_key_provisioning.request_timeout_ms") 1 600000
  else pass

/-- `checkTrustedTime` of the value of `provider`. -/
def checkTimeProvider (provider : Yaml) : Report Finding :=
  readingLower Y provider fun p =>
    if p ∉ ["composite", "fake", "system_clock"].map textBytes then
      error "schema.allowed_values" (textBytes "sec.trusted_time.provider")
        (textBytes "must be one of: composite, fake")
    else if p = textBytes "system_clock" then
      error "profile.no_system_clock_time" (textBytes "sec.trusted_time.provider")
        (textBytes <| "system_clock pseudo-trusted time provider was removed (CR-017); " ++
          "use composite or dev/test fake")
    else if isProduction profile ∧ p = textBytes "fake" then
      error "profile.production_composite_time_only" (textBytes "sec.trusted_time.provider")
        (textBytes "production profile only allows sec.trusted_time.provider=composite")
    else pass

/-- `checkTrustedTime` of the value of `platform`. -/
def checkTimePlatform (platform : Yaml) : Report Finding :=
  checkUnknownFields Y platform kTrustedTimePlatformKeys
      (textBytes "sec.trusted_time.platform") ++
    checkIntField Y platform (textBytes "sec.trusted_time.platform.max_freshness_ms") 1000
      86400000 ++
    checkIntField Y platform (textBytes "sec.trusted_time.platform.max_uncertainty_ms") 0 60000 ++
    checkIntField Y platform (textBytes "sec.trusted_time.platform.monitor_refresh_interval_ms")
      100 1000 ++
    checkIntField Y platform (textBytes "sec.trusted_time.platform.lease_max_ms") 100 1000 ++
    checkIntField Y platform (textBytes "sec.trusted_time.platform.cache_max_age_ms") 100 1000 ++
    whenMap (platform.find (textBytes "time_client")) (fun tc =>
      checkUnknownFields Y tc kTrustedTimeClientKeys
          (textBytes "sec.trusted_time.platform.time_client") ++
        checkIntField Y tc (textBytes "sec.trusted_time.platform.time_client.timeout_ms") 50
          5000) ++
    whenMap (platform.find (textBytes "auth")) fun auth =>
      checkUnknownFields Y auth kTrustedTimeAuthKeys (textBytes "sec.trusted_time.platform.auth")

/-- `checkTrustedTime`. -/
def checkTrustedTime (tt : Yaml) : Report Finding :=
  if tt.isMap then
    checkUnknownFields Y tt kSecTrustedTimeKeys (textBytes "sec.trusted_time") ++
      whenSome (tt.find (textBytes "provider")) (checkTimeProvider Y profile) ++
      whenMap (tt.find (textBytes "platform")) (checkTimePlatform Y) ++
      whenMap (tt.find (textBytes "hardware_rtc")) (fun rtc =>
        checkUnknownFields Y rtc kTrustedTimeRtcKeys
          (textBytes "sec.trusted_time.hardware_rtc")) ++
      checkIntField Y tt (textBytes "sec.trusted_time.rollback_tolerance_ms") 0 60000
  else pass

/-- `checkSec` of one of the profiles of `tls`. -/
def checkTlsProfile (entry : Yaml × Yaml) : Report Finding :=
  reading (Y.asString entry.1) fun name =>
    if entry.2.isMap then
      let base := textBytes "sec.tls.profiles." ++ name
      checkUnknownFields Y entry.2 kTlsProfileKeys base ++
        whenSome (entry.2.find (textBytes "credential_id")) fun credentialId =>
          reading (Y.asString credentialId) fun cid =>
            if cid = [] then
              warn "schema.required" (base ++ textBytes ".credential_id")
                (textBytes "credential_id should be non-empty")
            else pass
    else pass

/-- `checkSec` of the value of `tls`. -/
def checkTls (tls : Yaml) : Report Finding :=
  checkUnknownFields Y tls kSecTlsKeys (textBytes "sec.tls") ++
    whenSome (tls.find (textBytes "dev_peer_service")) (fun _ =>
      if isProduction profile then
        error "profile.production_no_dev_peer" (textBytes "sec.tls.dev_peer_service")
          (textBytes "production profile forbids sec.tls.dev_peer_service")
      else pass) ++
    whenMap (tls.find (textBytes "profiles")) fun profiles =>
      forEach (checkTlsProfile Y) profiles.entries

/-- `checkSec`. -/
def checkSec (root : Yaml) : Report Finding :=
  whenMap (root.find (textBytes "sec")) fun sec =>
    checkUnknownFields Y sec kSecKeys (textBytes "sec") ++
      whenMap (sec.find (textBytes "ipc")) (fun ipc =>
        checkUnknownFields Y ipc kSecIpcKeys (textBytes "sec.ipc") ++
          checkPathField Y profile ipc "socket_path" (textBytes "sec.ipc.socket_path")) ++
      whenMap (sec.find (textBytes "tls")) (checkTls Y profile) ++
      whenSome (sec.find (textBytes "trusted_time")) (checkTrustedTime Y profile) ++
      whenSome (sec.find (textBytes "business_key_provisioning")) (checkBusinessKeyProvisioning Y)

/-- `checkCloud`. -/
def checkCloud (root : Yaml) : Report Finding :=
  whenMap (root.find (textBytes "cloud")) fun cloud =>
    checkUnknownFields Y cloud kCloudKeys (textBytes "cloud") ++
      checkIntField Y cloud (textBytes "cloud.timeout_ms") 1 600000 ++
      checkIntField Y cloud (textBytes "cloud.retry_count") 0 100 ++
      checkIntField Y cloud (textBytes "cloud.retry_delay_ms") 0 600000

/-- `checkStorage`. -/
def checkStorage (root : Yaml) : Report Finding :=
  whenMap (root.find (textBytes "storage")) fun storage =>
    checkUnknownFields Y storage kStorageKeys (textBytes "storage") ++
      checkPathField Y profile storage "state_file" (textBytes "storage.state_file") ++
      checkPathField Y profile storage "ca_cert" (textBytes "storage.ca_cert") ++
      checkPathField Y profile storage "cert_store" (textBytes "storage.cert_store")

/-- `checkEnvironment` of a scalar value of `profile`. -/
def checkProfileText (prof : Yaml) : Report Finding :=
  readingLower Y prof fun p =>
    if p ∉ ["production", "test", "dev"].map textBytes then
      error "schema.allowed_values" (textBytes "environment.profile")
        (textBytes "must be one of: production, test, dev")
    else if isProduction profile ∧ p ≠ textBytes "production" then
      error "profile.profile_mismatch" (textBytes "environment.profile")
        (textBytes "production checker rejects profile=" ++ p)
    else if !isProduction profile ∧ p = textBytes "production" then
      error "profile.profile_mismatch" (textBytes "environment.profile")
        (textBytes "test checker rejects profile=production")
    else pass

/-- `checkEnvironment` of the value of `profile`. -/
def checkProfileField (prof : Yaml) : Report Finding :=
  if prof.isScalar then checkProfileText Y profile prof
  else error "schema.type" (textBytes "environment.profile") (textBytes "must be a string")

/-- `checkEnvironment` of the value of `is_production`. -/
def checkIsProduction (prod : Yaml) : Report Finding :=
  match prod with
  | .scalar text =>
    match Y.asBool text with
    | some val =>
      if isProduction profile ∧ !val then
        error "profile.production_strict" (textBytes "environment.is_production")
          (textBytes "production profile requires is_production=true")
      else pass
    | none =>
      error "schema.type" (textBytes "environment.is_production") (textBytes "must be a boolean")
  | _ =>
    error "schema.type" (textBytes "environment.is_production") (textBytes "must be a boolean")

/-- `checkEnvironment`. -/
def checkEnvironment (root : Yaml) : Report Finding :=
  whenMap (root.find (textBytes "environment")) fun env =>
    checkUnknownFields Y env kEnvironmentKeys (textBytes "environment") ++
      whenSome (env.find (textBytes "profile")) (checkProfileField Y profile) ++
      whenSome (env.find (textBytes "is_production")) (checkIsProduction Y profile)

/-! ### The walk for secrets -/

/-- What the walk says about a key. -/
def checkSecretKey (key childPath : Bytes) : Report Finding :=
  if toLower key ∈ kForbiddenSecretFields then
    if isProduction profile then
      error "profile.production_no_secret" childPath
        (textBytes "production profile forbids secret-bearing field")
    else
      warn "profile.test_no_secret" childPath
        (textBytes "test profile: secret-bearing field should not be in config")
  else pass

mutual

/-- `checkSecretFieldsRecursive`. -/
def checkSecretFieldsRecursive : Yaml → Bytes → Report Finding
  | .map entries, path => checkSecretEntries entries path
  | _, _ => pass

/-- The loop of `checkSecretFieldsRecursive`. -/
def checkSecretEntries : List (Yaml × Yaml) → Bytes → Report Finding
  | [], _ => pass
  | (k, v) :: entries, path =>
    (reading (Y.asString k) fun key =>
      let childPath := if path = [] then key else dot path key
      checkSecretKey profile key childPath ++ checkSecretFieldsRecursive v childPath) ++
      checkSecretEntries entries path

end

/-! ### The run -/

/-- The findings of a run on a document. -/
def checkDocument (root : Yaml) : Report Finding :=
  if root.isMap then
    checkTopLevelKeys Y profile root ++ checkKeyProvisioning Y profile root ++
      checkHsm Y profile root ++ checkSoftKey Y profile root ++ checkSec Y profile root ++
      checkCloud Y root ++ checkStorage Y profile root ++ checkEnvironment Y profile root ++
      checkSecretFieldsRecursive Y profile root []
  else error "schema.root" (textBytes "<root>") (textBytes "root node must be a YAML map")

/-- `hasNoErrors`. -/
def hasNoErrors (findings : List Finding) : Bool := findings.all fun f => f.severity ≠ .error

/-- `run`, with the findings it leaves; `none` if an exception leaves it. A file that cannot be
loaded has no document. -/
def run : Option Yaml → Option (Bool × List Finding)
  | none => some (false, [])
  | some root =>
    match checkDocument Y profile root with
    | none => none
    | some findings => some (hasNoErrors findings, findings)

end Checks

end TboxSec.Config
