import Mathlib.Tactic.MkIffOfInductiveProp
import TboxSec.Config.Checker

/-!
# What the production profile accepts

The rules that a document has to obey so that the checker, run for production, comes to its end
and reports no error, section by section (`Deployable`). The walk for secrets adds that every key
it comes by is a text and no secret (`Plain`).

* **Rules.** A field that is not there obeys every rule (`Field`), and a section that is no map is
  not looked into (`Section`): the checker skips both. The rules of a section are a structure with
  one field for each check.
* **Clean checks.** A check is clean when it comes to its end without an error (`Clean isError`);
  warnings do not count. For each check of the source there is a lemma `clean_check…` that turns
  its being clean into the rule, and the combinators of reports do the rest.
* **Readable documents.** Reading a key that is no text throws. The checks of unknown fields read
  every key they pass, so most lemmas assume that the keys below the node can be read (`Readable`);
  the walk for secrets, which comes first, has seen to that.

`accepted_iff`: these are all the rules.
-/

namespace TboxSec.Config

open Report

variable {Y : YamlCpp} {n root : Yaml}

/-- The finding is an error. -/
def isError (f : Finding) : Bool := f.severity = .error

/-- The run for production comes to its end and reports no error. -/
def Accepted (Y : YamlCpp) (root : Yaml) : Prop :=
  ∃ findings, run Y .production (some root) = some (true, findings)

/-! ### Rules -/

/-- The value of a field, if it is there, obeys a rule. -/
def Field (n : Yaml) (name : String) (P : Yaml → Prop) : Prop :=
  ∀ m, n.find (textBytes name) = some m → P m

/-- A field that is a map obeys the rules of a section. -/
def Section (n : Yaml) (name : String) (P : Yaml → Prop) : Prop :=
  Field n name fun m => m.isMap = true → P m

/-- The node is a text: one of these, but for case and blanks around it. -/
def OneOf (Y : YamlCpp) (values : List String) (n : Yaml) : Prop :=
  ∃ s, Y.asString n = some s ∧ toLower (trim s) ∈ values.map textBytes

/-- The node is an absolute path, or empty. -/
def IsPath (Y : YamlCpp) (n : Yaml) : Prop :=
  ∃ s, Y.asString n = some s ∧
    (s = [] ∨ contains s (textBytes "..") = false ∧ contains s (textBytes "~") = false ∧
      s.head? = some 0x2F)

/-- The node is an integer. -/
def IsInteger (Y : YamlCpp) (n : Yaml) : Prop :=
  ∃ text v, n = .scalar text ∧ Y.asInt text = some v

@[mk_iff]
structure HsmDeployable (Y : YamlCpp) (hsm : Yaml) : Prop where
  type : Field hsm "type" (OneOf Y ["", "pkcs11", "trustzone"])
  libraryPath : Field hsm "library_path" (IsPath Y)

@[mk_iff]
structure TimePlatformDeployable (Y : YamlCpp) (platform : Yaml) : Prop where
  maxFreshnessMs : Field platform "max_freshness_ms" (IsInteger Y)
  maxUncertaintyMs : Field platform "max_uncertainty_ms" (IsInteger Y)
  monitorRefreshIntervalMs : Field platform "monitor_refresh_interval_ms" (IsInteger Y)
  leaseMaxMs : Field platform "lease_max_ms" (IsInteger Y)
  cacheMaxAgeMs : Field platform "cache_max_age_ms" (IsInteger Y)
  timeClient : Section platform "time_client" fun tc => Field tc "timeout_ms" (IsInteger Y)

@[mk_iff]
structure TrustedTimeDeployable (Y : YamlCpp) (tt : Yaml) : Prop where
  provider : Field tt "provider" (OneOf Y ["composite"])
  platform : Section tt "platform" (TimePlatformDeployable Y)
  rollbackToleranceMs : Field tt "rollback_tolerance_ms" (IsInteger Y)

@[mk_iff]
structure BusinessKeyProvDeployable (Y : YamlCpp) (bkp : Yaml) : Prop where
  enabled : Field bkp "enabled" fun m => m.isScalar = true
  maxItems : Field bkp "max_items" (IsInteger Y)
  maxWrappedKeyBytes : Field bkp "max_wrapped_key_bytes" (IsInteger Y)
  requestTimeoutMs : Field bkp "request_timeout_ms" (IsInteger Y)

@[mk_iff]
structure TlsDeployable (Y : YamlCpp) (tls : Yaml) : Prop where
  devPeerService : Field tls "dev_peer_service" fun _ => False
  /-- The credential of a profile is a text. -/
  profiles : Section tls "profiles" fun profiles => ∀ e ∈ profiles.entries, e.2.isMap = true →
    Field e.2 "credential_id" fun m => ∃ s, Y.asString m = some s

@[mk_iff]
structure SecDeployable (Y : YamlCpp) (sec : Yaml) : Prop where
  ipc : Section sec "ipc" fun ipc => Field ipc "socket_path" (IsPath Y)
  tls : Section sec "tls" (TlsDeployable Y)
  trustedTime : Section sec "trusted_time" (TrustedTimeDeployable Y)
  businessKeyProvisioning :
    Section sec "business_key_provisioning" (BusinessKeyProvDeployable Y)

@[mk_iff]
structure CloudDeployable (Y : YamlCpp) (cloud : Yaml) : Prop where
  timeoutMs : Field cloud "timeout_ms" (IsInteger Y)
  retryCount : Field cloud "retry_count" (IsInteger Y)
  retryDelayMs : Field cloud "retry_delay_ms" (IsInteger Y)

@[mk_iff]
structure StorageDeployable (Y : YamlCpp) (storage : Yaml) : Prop where
  stateFile : Field storage "state_file" (IsPath Y)
  caCert : Field storage "ca_cert" (IsPath Y)
  certStore : Field storage "cert_store" (IsPath Y)

@[mk_iff]
structure EnvironmentDeployable (Y : YamlCpp) (env : Yaml) : Prop where
  profile : Field env "profile" fun m => m.isScalar = true ∧ OneOf Y ["production"] m
  isProduction : Field env "is_production" fun m =>
    ∃ text, m = .scalar text ∧ Y.asBool text = some true

/-- The rules of the production profile, but for secrets. -/
@[mk_iff]
structure Deployable (Y : YamlCpp) (root : Yaml) : Prop where
  isMap : root.isMap = true
  common : Field root "common" fun _ => False
  /-- The mode of key provisioning is there and is `hsm`. -/
  keyProvisioning : ∃ kp mode, root.find (textBytes "key_provisioning") = some kp ∧
    kp.find (textBytes "mode") = some mode ∧ OneOf Y ["hsm"] mode
  hsm : Section root "hsm" (HsmDeployable Y)
  softKey : Field root "soft_key" fun _ => False
  sec : Section root "sec" (SecDeployable Y)
  cloud : Section root "cloud" (CloudDeployable Y)
  storage : Section root "storage" (StorageDeployable Y)
  environment : Section root "environment" (EnvironmentDeployable Y)

/-- The key is a text and no secret. -/
def Plain (Y : YamlCpp) (k : Yaml) : Prop :=
  ∃ s, Y.asString k = some s ∧ toLower s ∉ kForbiddenSecretFields

/-! ### Clean checks -/

/-- An error is never clean. -/
@[simp]
theorem clean_error (rule : String) (field message : Bytes) :
    ¬ Clean isError (error rule field message) := by
  rw [error, clean_emit]
  exact Bool.true_eq_false.mp

/-- A warning is always clean, whatever it says. -/
@[simp]
theorem clean_warn (rule : String) (field message : Bytes) :
    Clean isError (warn rule field message) := by
  rw [warn, clean_emit]
  rfl

/-- A check of a section is clean when the section is missing, is no map, or is clean inside. -/
@[simp]
theorem clean_whenMap {node : Option Yaml} {f : Yaml → Report Finding} :
    Clean isError (whenMap node f) ↔
      ∀ m, node = some m → m.isMap = true → Clean isError (f m) := by
  simp [whenMap]

/-- A document is accepted when the checks come to their end and what they report is clean. The
severities are all that `run` looks at. -/
private theorem accepted_iff_clean : Accepted Y root ↔ Clean isError
    (checkDocument Y .production root) := by
  rw [Accepted, run, Clean]
  constructor
  · rintro ⟨findings, h⟩
    split at h
    · exact nomatch h
    · rename_i fs hfs
      obtain ⟨hclean, rfl⟩ := Prod.mk.inj (Option.some.inj h)
      exact ⟨fs, hfs, fun f hf => by simpa [isError] using List.all_eq_true.mp hclean f hf⟩
  · rintro ⟨fs, hfs, hclean⟩
    have hall : hasNoErrors fs = true :=
      List.all_eq_true.mpr fun f hf => by simpa [isError] using hclean f hf
    rw [hfs]
    exact ⟨fs, congrArg (fun b => some (b, fs)) hall⟩

/-! ### The walk for secrets -/

/-- A key is clean unless it is the name of a secret in some case. -/
private theorem clean_checkSecretKey {key childPath : Bytes} :
    Clean isError (checkSecretKey .production key childPath) ↔
      toLower key ∉ kForbiddenSecretFields := by
  simp [checkSecretKey, isProduction]

mutual

/-- **The walk comes by the keys of nested maps**, and by no others. -/
theorem clean_checkSecretFieldsRecursive (n : Yaml) (path : Bytes) :
    Clean isError (checkSecretFieldsRecursive Y .production n path) ↔
      ∀ k ∈ n.pathKeys, Plain Y k :=
  match n with
  | .null | .scalar _ | .sequence _ => ⟨fun _ => nofun, fun _ => clean_pass⟩
  | .map es => clean_checkSecretEntries es path

/-- The same for the entries of a map: their keys, and what lies below their values. -/
private theorem clean_checkSecretEntries (es : List (Yaml × Yaml)) (path : Bytes) :
    Clean isError (checkSecretEntries Y .production es path) ↔
      ∀ k ∈ Yaml.pathKeysOfEntries es, Plain Y k :=
  match es with
  | [] => ⟨fun _ => nofun, fun _ => clean_pass⟩
  | (k, v) :: es => by
    rw [checkSecretEntries, clean_append, clean_reading, Yaml.pathKeysOfEntries,
      List.forall_mem_cons, List.forall_mem_append, clean_checkSecretEntries es path, ← and_assoc]
    simp only [clean_append, clean_checkSecretKey, clean_checkSecretFieldsRecursive v, Plain,
      ← and_assoc, exists_and_right]

end

/-! ### Parts of checks -/

/-- Every key that the walk comes by is a text. -/
def Readable (Y : YamlCpp) (n : Yaml) : Prop := ∀ k ∈ n.pathKeys, ∃ s, Y.asString k = some s

/-- What is below a field is below the node. -/
theorem Readable.find {name : Bytes} {m : Yaml} (h : Readable Y n) (hfind : n.find name = some m) :
    Readable Y m := fun k hk => h k (Yaml.pathKeys_subset_of_find hfind hk)

/-- The key of an entry is a text, and what is below its value can be read. -/
theorem Readable.entry {e : Yaml × Yaml} (h : Readable Y n) (he : e ∈ n.entries) :
    (∃ s, Y.asString e.1 = some s) ∧ Readable Y e.2 :=
  ⟨h _ (Yaml.mem_pathKeys.mpr ⟨e, he, .inl rfl⟩),
    fun k hk => h k (Yaml.mem_pathKeys.mpr ⟨e, he, .inr hk⟩)⟩

/-- Unknown fields are warned about, so they are clean once every key can be read. -/
private theorem clean_checkUnknownFields (h : Readable Y n) (known : List Bytes)
    (fieldPrefix : Bytes) :
    Clean isError (checkUnknownFields Y n known fieldPrefix) := by
  rw [checkUnknownFields, clean_forEach]
  intro e he
  obtain ⟨s, hs⟩ := (h.entry he).1
  rw [clean_reading]
  refine ⟨s, hs, ?_⟩
  split_ifs
  · exact clean_pass
  · exact clean_warn ..

/-- A path is clean when it is empty, or absolute and without `..` and `~`. -/
private theorem clean_checkPath {fieldPath s : Bytes} :
    Clean isError (checkPath .production fieldPath s) ↔
      s = [] ∨ contains s (textBytes "..") = false ∧ contains s (textBytes "~") = false ∧
        s.head? = some 0x2F := by
  simp only [checkPath, isProduction, decide_true, if_true, ne_eq]
  split_ifs <;> simp_all

/-- The same for a field that holds a path; one that is no text throws. -/
private theorem clean_checkPathField {name : String} {fieldPath : Bytes} :
    Clean isError (checkPathField Y .production n name fieldPath) ↔ Field n name (IsPath Y) := by
  simp only [checkPathField, clean_whenSome, clean_reading, clean_checkPath, Field, IsPath]

/-- A field for a number is clean when it is an integer. The bounds are only warned about, so they
are no part of the rule. -/
private theorem clean_checkIntField {fieldPath : Bytes} {minVal maxVal : ℤ} :
    Clean isError (checkIntField Y n fieldPath minVal maxVal) ↔
      ∀ m, n.find (lastSegment fieldPath) = some m → IsInteger Y m := by
  rw [checkIntField, clean_whenSome]
  refine forall₂_congr fun m _ => ?_
  cases m with
  | scalar text =>
    dsimp only
    cases hint : Y.asInt text with
    | some v =>
      refine iff_of_true ?_ ⟨text, v, rfl, hint⟩
      rw [clean_ite]
      exact ⟨fun _ => clean_warn _ _ _, fun _ => clean_pass⟩
    | none =>
      refine iff_of_false (clean_error _ _ _) ?_
      rintro ⟨_, v, ⟨⟩, hv⟩
      exact nomatch hint.symm.trans hv
  | null | sequence | map =>
    refine iff_of_false (clean_error _ _ _) ?_
    rintro ⟨_, _, hscalar, _⟩
    exact nomatch hscalar

/-- A check of a text that is compared in lower case and without blanks around it. -/
private theorem clean_readingLower {values : List String} {f : Bytes → Report Finding}
    (h : ∀ p, Clean isError (f p) ↔ p ∈ values.map textBytes) :
    Clean isError (readingLower Y n f) ↔ OneOf Y values n := by
  simp only [readingLower, clean_reading, h, OneOf]

/-- For production the mode of key provisioning is `hsm`. -/
private theorem clean_checkMode :
    Clean isError (checkMode Y .production n) ↔ OneOf Y ["hsm"] n := by
  refine clean_readingLower fun p => ?_
  have hne : textBytes "hsm" ≠ textBytes "soft_file" := by decide
  simp only [clean_ite, clean_error, clean_pass, isProduction, decide_true, true_and, imp_false,
    implies_true, and_true, List.map_cons, List.map_nil, List.mem_singleton]
  constructor
  · rintro ⟨hknown, hhsm⟩
    by_contra hp
    exact hknown ⟨hp, hhsm hknown⟩
  · rintro rfl
    exact ⟨fun h => h.1 rfl, fun _ => hne⟩

/-- For production the HSM is a real one, or its type is left empty. -/
private theorem clean_checkHsmType :
    Clean isError (checkHsmType Y .production n) ↔ OneOf Y ["", "pkcs11", "trustzone"] n := by
  refine clean_readingLower fun p => ?_
  have hsoftware : textBytes "software" ∉ ["", "pkcs11", "trustzone"].map textBytes := by
    decide
  have hknown : p ∈ ["", "software", "pkcs11", "trustzone"].map textBytes ↔
      p = textBytes "software" ∨ p ∈ ["", "pkcs11", "trustzone"].map textBytes := by
    simp only [List.map_cons, List.map_nil, List.mem_cons]
    tauto
  simp only [clean_append, clean_ite, clean_error, clean_pass, isProduction, decide_true, true_and,
    imp_false, implies_true, and_true, not_not, hknown]
  constructor
  · rintro ⟨hp, hne⟩
    exact hp.resolve_left hne
  · rintro hp
    exact ⟨.inr hp, fun h => hsoftware (h ▸ hp)⟩

/-- For production the source of time is the composite one. -/
private theorem clean_checkTimeProvider :
    Clean isError (checkTimeProvider Y .production n) ↔ OneOf Y ["composite"] n := by
  refine clean_readingLower fun p => ?_
  have hclock : textBytes "composite" ≠ textBytes "system_clock" := by decide
  have hfake : textBytes "composite" ≠ textBytes "fake" := by decide
  simp only [clean_ite, clean_error, clean_pass, isProduction, decide_true, true_and, imp_false,
    implies_true, and_true, List.map_cons, List.map_nil, List.mem_cons, List.not_mem_nil, or_false,
    not_not]
  constructor
  · rintro ⟨hknown, hothers⟩
    obtain ⟨hnotClock, hnotFake⟩ := hothers hknown
    exact hknown.resolve_right fun h => h.elim (hnotFake hnotClock) hnotClock
  · rintro rfl
    exact ⟨.inl rfl, fun _ => ⟨hclock, fun _ => hfake⟩⟩

/-- The text of the profile is `production`. -/
private theorem clean_checkProfileText :
    Clean isError (checkProfileText Y .production n) ↔ OneOf Y ["production"] n := by
  refine clean_readingLower fun p => ?_
  simp only [clean_ite, clean_error, clean_pass, isProduction, decide_true, true_and, imp_false,
    implies_true, and_true, List.map_cons, List.map_nil, List.mem_cons, List.not_mem_nil, or_false,
    not_not, Bool.not_true, Bool.false_eq_true, false_and, not_false_eq_true]
  constructor
  · rintro ⟨hknown, hproduction⟩
    exact hproduction hknown
  · rintro rfl
    exact ⟨.inl rfl, fun _ => rfl⟩

/-- The field of the profile is a scalar with this text. -/
private theorem clean_checkProfileField :
    Clean isError (checkProfileField Y .production n) ↔
      n.isScalar = true ∧ OneOf Y ["production"] n := by
  rw [checkProfileField, clean_ite, clean_checkProfileText]
  constructor
  · rintro ⟨htext, hother⟩
    have hscalar : n.isScalar = true := by
      by_contra hn
      exact clean_error _ _ _ (hother hn)
    exact ⟨hscalar, htext hscalar⟩
  · rintro ⟨hscalar, htext⟩
    exact ⟨fun _ => htext, fun hn => absurd hscalar hn⟩

/-- The flag of the environment is a boolean, and up. -/
private theorem clean_checkIsProduction :
    Clean isError (checkIsProduction Y .production n) ↔
      ∃ text, n = .scalar text ∧ Y.asBool text = some true := by
  cases n with
  | scalar text =>
    rw [checkIsProduction]
    cases hbool : Y.asBool text with
    | none =>
      refine iff_of_false (clean_error _ _ _) ?_
      rintro ⟨_, ⟨⟩, hb⟩
      exact nomatch hbool.symm.trans hb
    | some b =>
      cases b with
      | true => exact iff_of_true clean_pass ⟨text, rfl, hbool⟩
      | false =>
        refine iff_of_false (clean_error _ _ _) ?_
        rintro ⟨_, ⟨⟩, hb⟩
        exact nomatch hbool.symm.trans hb
  | null | sequence | map =>
    refine iff_of_false (clean_error _ _ _) ?_
    rintro ⟨_, hscalar, _⟩
    exact nomatch hscalar

/-! ### The sections -/

/-- The section `hsm`. -/
private theorem clean_checkHsm (h : Readable Y root) :
    Clean isError (checkHsm Y .production root) ↔ Section root "hsm" (HsmDeployable Y) := by
  rw [checkHsm, clean_whenMap]
  refine forall₃_congr fun hsm hfind _ => ?_
  simp only [clean_append, clean_checkUnknownFields (h.find hfind), clean_whenSome,
    clean_checkHsmType, clean_checkPathField, hsmDeployable_iff, Field, true_and]

/-- A section `soft_key` is an error in production, whatever it holds. -/
private theorem clean_checkSoftKey :
    Clean isError (checkSoftKey Y .production root) ↔ Field root "soft_key" fun _ => False := by
  rw [checkSoftKey, clean_whenSome]
  exact forall₂_congr fun _ _ => iff_of_false (clean_error _ _ _) not_false

/-- The section on business keys. It is looked into only when it is a map. -/
private theorem clean_checkBusinessKeyProvisioning (h : Readable Y n) :
    Clean isError (checkBusinessKeyProvisioning Y n) ↔
      (n.isMap = true → BusinessKeyProvDeployable Y n) := by
  have henabled : ∀ m : Yaml,
      Clean isError (if m.isScalar then pass
        else error "schema.type" (textBytes "sec.business_key_provisioning.enabled")
          (textBytes "must be a boolean")) ↔ m.isScalar = true := by
    intro m
    cases m.isScalar <;> simp
  have hitems : lastSegment (textBytes "sec.business_key_provisioning.max_items") =
      textBytes "max_items" := by decide
  have hbytes : lastSegment (textBytes "sec.business_key_provisioning.max_wrapped_key_bytes") =
      textBytes "max_wrapped_key_bytes" := by decide
  have htimeout : lastSegment (textBytes "sec.business_key_provisioning.request_timeout_ms") =
      textBytes "request_timeout_ms" := by decide
  rw [checkBusinessKeyProvisioning, clean_ite, businessKeyProvDeployable_iff]
  simp only [clean_append, clean_checkUnknownFields h, clean_whenSome, henabled,
    clean_checkIntField, hitems, hbytes, htimeout, Field, clean_pass, true_and, implies_true,
    and_true, and_assoc]

/-- The limits of the time platform are integers, and so is the time-out of its client. -/
private theorem clean_checkTimePlatform (h : Readable Y n) :
    Clean isError (checkTimePlatform Y n) ↔ TimePlatformDeployable Y n := by
  have hfreshness : lastSegment (textBytes "sec.trusted_time.platform.max_freshness_ms") =
      textBytes "max_freshness_ms" := by decide
  have huncertainty : lastSegment (textBytes "sec.trusted_time.platform.max_uncertainty_ms") =
      textBytes "max_uncertainty_ms" := by decide
  have hrefresh :
      lastSegment (textBytes "sec.trusted_time.platform.monitor_refresh_interval_ms") =
        textBytes "monitor_refresh_interval_ms" := by decide
  have hlease : lastSegment (textBytes "sec.trusted_time.platform.lease_max_ms") =
      textBytes "lease_max_ms" := by decide
  have hcache : lastSegment (textBytes "sec.trusted_time.platform.cache_max_age_ms") =
      textBytes "cache_max_age_ms" := by decide
  have htimeout : lastSegment (textBytes "sec.trusted_time.platform.time_client.timeout_ms") =
      textBytes "timeout_ms" := by decide
  have hclient : ∀ tc, n.find (textBytes "time_client") = some tc →
      Clean isError (checkUnknownFields Y tc kTrustedTimeClientKeys
        (textBytes "sec.trusted_time.platform.time_client")) := fun _ hfind =>
    clean_checkUnknownFields (h.find hfind) _ _
  have hauth : ∀ auth, n.find (textBytes "auth") = some auth → auth.isMap = true →
      Clean isError (checkUnknownFields Y auth kTrustedTimeAuthKeys
        (textBytes "sec.trusted_time.platform.auth")) := fun _ hfind _ =>
    clean_checkUnknownFields (h.find hfind) _ _
  rw [timePlatformDeployable_iff, checkTimePlatform]
  simp only [clean_append, clean_checkUnknownFields h, clean_whenMap, clean_checkIntField,
    hfreshness, huncertainty, hrefresh, hlease, hcache, htimeout, Field, Section, true_and,
    and_assoc]
  refine and_congr_right' <| and_congr_right' <| and_congr_right' <| and_congr_right' <|
    and_congr_right' ?_
  exact ⟨fun hc m hm hmap => (hc.1 m hm hmap).2,
    fun hc => ⟨fun m hm hmap => ⟨hclient m hm, hc m hm hmap⟩, hauth⟩⟩

/-- The section on trusted time, with its platform. -/
private theorem clean_checkTrustedTime (h : Readable Y n) :
    Clean isError (checkTrustedTime Y .production n) ↔
      (n.isMap = true → TrustedTimeDeployable Y n) := by
  have hrollback : lastSegment (textBytes "sec.trusted_time.rollback_tolerance_ms") =
      textBytes "rollback_tolerance_ms" := by decide
  have hplatform : (∀ m, n.find (textBytes "platform") = some m → m.isMap = true →
      Clean isError (checkTimePlatform Y m)) ↔
      Section n "platform" (TimePlatformDeployable Y) :=
    forall₃_congr fun m hfind _ => clean_checkTimePlatform (h.find hfind)
  have hrtc : ∀ rtc, n.find (textBytes "hardware_rtc") = some rtc → rtc.isMap = true →
      Clean isError (checkUnknownFields Y rtc kTrustedTimeRtcKeys
        (textBytes "sec.trusted_time.hardware_rtc")) := fun _ hfind _ =>
    clean_checkUnknownFields (h.find hfind) _ _
  rw [checkTrustedTime, clean_ite, trustedTimeDeployable_iff]
  simp only [clean_append, clean_checkUnknownFields h, clean_whenSome, clean_whenMap,
    clean_checkTimeProvider, clean_checkIntField, hrollback, hplatform, Field, clean_pass,
    true_and, implies_true, and_true, and_assoc]
  exact forall_congr' fun _ => and_congr_right' <| and_congr_right' <|
    ⟨fun hc => hc.2, fun hc => ⟨hrtc, hc⟩⟩

/-- An entry of the TLS profiles: the name can be read, and the credential is a text. -/
private theorem clean_checkTlsProfile {e : Yaml × Yaml} (h : Readable Y n) (he : e ∈ n.entries) :
    Clean isError (checkTlsProfile Y e) ↔
      (e.2.isMap = true → Field e.2 "credential_id" fun m => ∃ s, Y.asString m = some s) := by
  obtain ⟨⟨name, hname⟩, hvalue⟩ := h.entry he
  rw [checkTlsProfile, hname, clean_reading]
  simp only [clean_ite, clean_append, clean_checkUnknownFields hvalue, clean_whenSome,
    clean_reading, clean_warn, clean_pass, Field, Option.some.injEq, exists_eq_left', true_and,
    implies_true, and_true]

/-- The section on TLS: no development peer, and the rule of every profile. -/
private theorem clean_checkTls (h : Readable Y n) :
    Clean isError (checkTls Y .production n) ↔ TlsDeployable Y n := by
  have hprofiles : (∀ m, n.find (textBytes "profiles") = some m → m.isMap = true →
      Clean isError (forEach (checkTlsProfile Y) m.entries)) ↔
      Section n "profiles" fun profiles => ∀ e ∈ profiles.entries, e.2.isMap = true →
        Field e.2 "credential_id" fun m => ∃ s, Y.asString m = some s := by
    refine forall₃_congr fun m hfind _ => ?_
    rw [clean_forEach]
    exact forall₂_congr fun e he => clean_checkTlsProfile (h.find hfind) he
  rw [checkTls, tlsDeployable_iff, ← hprofiles]
  simp only [clean_append, clean_checkUnknownFields h, clean_whenSome, clean_whenMap, clean_ite,
    clean_error, isProduction, decide_true, Field, true_and, imp_false, not_true, false_and]

/-- The section `sec` is clean when its four sections are. -/
private theorem clean_checkSec (h : Readable Y root) :
    Clean isError (checkSec Y .production root) ↔ Section root "sec" (SecDeployable Y) := by
  rw [checkSec, clean_whenMap]
  refine forall₃_congr fun sec hsec _ => ?_
  have hread := h.find hsec
  have hipc : (∀ m, sec.find (textBytes "ipc") = some m → m.isMap = true →
      Clean isError (checkUnknownFields Y m kSecIpcKeys (textBytes "sec.ipc") ++
        checkPathField Y .production m "socket_path" (textBytes "sec.ipc.socket_path"))) ↔
      Section sec "ipc" fun ipc => Field ipc "socket_path" (IsPath Y) := by
    refine forall₃_congr fun m hfind _ => ?_
    rw [clean_append, clean_checkPathField]
    exact and_iff_right (clean_checkUnknownFields (hread.find hfind) _ _)
  have htls : (∀ m, sec.find (textBytes "tls") = some m → m.isMap = true →
      Clean isError (checkTls Y .production m)) ↔ Section sec "tls" (TlsDeployable Y) :=
    forall₃_congr fun m hfind _ => clean_checkTls (hread.find hfind)
  have htime : (∀ m, sec.find (textBytes "trusted_time") = some m →
      Clean isError (checkTrustedTime Y .production m)) ↔
      Section sec "trusted_time" (TrustedTimeDeployable Y) :=
    forall₂_congr fun m hfind => clean_checkTrustedTime (hread.find hfind)
  have hkeys : (∀ m, sec.find (textBytes "business_key_provisioning") = some m →
      Clean isError (checkBusinessKeyProvisioning Y m)) ↔
      Section sec "business_key_provisioning" (BusinessKeyProvDeployable Y) :=
    forall₂_congr fun m hfind => clean_checkBusinessKeyProvisioning (hread.find hfind)
  rw [secDeployable_iff, ← hipc, ← htls, ← htime, ← hkeys]
  simp only [clean_append, clean_checkUnknownFields hread, clean_whenSome, clean_whenMap,
    true_and, and_assoc]

/-- The section on the cloud: three integers. -/
private theorem clean_checkCloud (h : Readable Y root) :
    Clean isError (checkCloud Y root) ↔ Section root "cloud" (CloudDeployable Y) := by
  have htimeout : lastSegment (textBytes "cloud.timeout_ms") = textBytes "timeout_ms" := by
    decide
  have hcount : lastSegment (textBytes "cloud.retry_count") = textBytes "retry_count" := by
    decide
  have hdelay : lastSegment (textBytes "cloud.retry_delay_ms") = textBytes "retry_delay_ms" := by
    decide
  rw [checkCloud, clean_whenMap]
  refine forall₃_congr fun cloud hfind _ => ?_
  simp only [clean_append, clean_checkUnknownFields (h.find hfind), clean_checkIntField, htimeout,
    hcount, hdelay, cloudDeployable_iff, Field, true_and, and_assoc]

/-- The section on storage: three paths. -/
private theorem clean_checkStorage (h : Readable Y root) :
    Clean isError (checkStorage Y .production root) ↔
      Section root "storage" (StorageDeployable Y) := by
  rw [checkStorage, clean_whenMap]
  refine forall₃_congr fun storage hfind _ => ?_
  simp only [clean_append, clean_checkUnknownFields (h.find hfind), clean_checkPathField,
    storageDeployable_iff, true_and, and_assoc]

/-- The section on the environment. -/
private theorem clean_checkEnvironment (h : Readable Y root) :
    Clean isError (checkEnvironment Y .production root) ↔
      Section root "environment" (EnvironmentDeployable Y) := by
  rw [checkEnvironment, clean_whenMap]
  refine forall₃_congr fun env hfind _ => ?_
  simp only [clean_append, clean_checkUnknownFields (h.find hfind), clean_whenSome,
    clean_checkProfileField, clean_checkIsProduction, environmentDeployable_iff, Field, true_and]

/-- The mode of key provisioning must be there. A section or a mode that is missing is an error in
production, unlike those of the other sections. -/
private theorem clean_checkKeyProvisioning (h : Readable Y root) :
    Clean isError (checkKeyProvisioning Y .production root) ↔
      ∃ kp mode, root.find (textBytes "key_provisioning") = some kp ∧
        kp.find (textBytes "mode") = some mode ∧ OneOf Y ["hsm"] mode := by
  have hmissing : ∀ field required warning,
      ¬ Clean isError (missing .production field required warning) := fun _ _ _ =>
    clean_error _ _ _
  rw [checkKeyProvisioning]
  cases hkp : (root.find (textBytes "key_provisioning")).filter Yaml.isMap with
  | none =>
    refine iff_of_false (hmissing _ _ _) ?_
    rintro ⟨kp, mode, hfind, hmode, -⟩
    rw [hfind, Option.filter_some, if_pos (Yaml.isMap_of_find hmode)] at hkp
    exact nomatch hkp
  | some kp =>
    obtain ⟨hfind, -⟩ := Option.filter_eq_some_iff.mp hkp
    dsimp only
    rw [clean_append]
    cases hmode : kp.find (textBytes "mode") with
    | none =>
      refine iff_of_false (fun hc => hmissing _ _ _ hc.2) ?_
      rintro ⟨kp', mode, hfind', hmode', -⟩
      obtain rfl := Option.some.inj (hfind.symm.trans hfind')
      exact nomatch hmode.symm.trans hmode'
    | some mode =>
      dsimp only
      rw [clean_checkMode]
      constructor
      · exact fun hc => ⟨kp, mode, hfind, hmode, hc.2⟩
      · rintro ⟨kp', mode', hfind', hmode', hhsm⟩
        obtain rfl := Option.some.inj (hfind.symm.trans hfind')
        obtain rfl := Option.some.inj (hmode.symm.trans hmode')
        exact ⟨clean_checkUnknownFields (h.find hfind) _ _, hhsm⟩

/-- A key at the top is clean unless it is `common`; others that are not known are warned about. -/
private theorem clean_checkTopLevelKey {e : Yaml × Yaml} (h : Readable Y root)
    (he : e ∈ root.entries) :
    Clean isError (checkTopLevelKey Y .production e) ↔ e.1 ≠ .scalar (textBytes "common") := by
  obtain ⟨s, hs⟩ := (h.entry he).1
  have hcommon : s = textBytes "common" ↔ e.1 = .scalar (textBytes "common") := by
    cases hkey : e.1 with
    | scalar t =>
      rw [hkey] at hs
      obtain rfl : t = s := Option.some.inj hs
      exact ⟨congrArg _, Yaml.scalar.inj⟩
    | null =>
      -- an empty node may be read as a text, but not as this one
      have hnull : textBytes "null" ≠ textBytes "common" := by decide
      refine iff_of_false ?_ nofun
      rintro rfl
      rw [hkey, YamlCpp.asString] at hs
      split_ifs at hs
      exact hnull (Option.some.inj hs)
    | sequence | map =>
      rw [hkey] at hs
      exact nomatch hs
  rw [checkTopLevelKey, hs, clean_reading]
  simp only [Option.some.injEq, exists_eq_left', clean_ite, clean_error, clean_warn, clean_pass,
    isProduction, decide_true, imp_false, implies_true, not_true, and_true, ne_eq,
    hcommon]

/-- No field `common` at the top. It is found by its key, so the rule is about the field. -/
private theorem clean_checkTopLevelKeys (h : Readable Y root) :
    Clean isError (checkTopLevelKeys Y .production root) ↔
      Field root "common" fun _ => False := by
  have hnone : (Field root "common" fun _ => False) ↔ root.find (textBytes "common") = none :=
    Option.eq_none_iff_forall_ne_some.symm
  rw [checkTopLevelKeys, clean_forEach, hnone, Yaml.find_eq_none_iff]
  exact forall₂_congr fun e he => clean_checkTopLevelKey h he

/-- **What production accepts**: the rules of the sections are obeyed, and the walk comes by plain
keys only. -/
theorem accepted_iff : Accepted Y root ↔ Deployable Y root ∧ ∀ k ∈ root.pathKeys, Plain Y k := by
  rw [accepted_iff_clean, checkDocument, clean_ite, deployable_iff]
  by_cases hmap : root.isMap = true
  · simp only [clean_append, hmap, not_true, false_imp_iff, and_true, true_imp_iff, true_and]
    rw [clean_checkSecretFieldsRecursive]
    refine and_congr_left fun hplain => ?_
    have h : Readable Y root := fun k hk => (hplain k hk).imp fun _ hs => hs.1
    rw [clean_checkTopLevelKeys h, clean_checkKeyProvisioning h, clean_checkHsm h,
      clean_checkSoftKey, clean_checkSec h, clean_checkCloud h, clean_checkStorage h,
      clean_checkEnvironment h]
    simp only [and_assoc]
  · refine iff_of_false (fun hc => clean_error _ _ _ (hc.2 hmap)) ?_
    exact fun hc => hmap hc.1.1

end TboxSec.Config
