import TboxSec.Canonical.Injective
import TboxSec.Keyprov.AdmissionSpec
import TboxSec.Lib.Separated

/-!
# The info of the key derivation

The key that wraps a business key is derived under an info text that names its context: the
request, the domain, the purpose, the key id, the version and the fingerprint of the recipient,
joined by bars. The version and the fingerprint contain no bar, so they are read off the end.

**What is left has more than one reading** when a caller puts `|domain|purpose|` into a request id
or a key id: the bars are not escaped, and the structure of a request is checked for the length of
the request id only. `hkdf_info_separates_iff` says exactly which contexts share their info with
another one.
-/

namespace TboxSec.Keyprov

open Canonical

/-! ### Contexts -/

/-- The arguments of `buildHkdfInfoV1`. -/
structure HkdfContext where
  requestId : String
  businessDomain : String
  purpose : String
  keyId : String
  businessKeyVersion : ℕ
  recipientFingerprint : String
  deriving DecidableEq

namespace HkdfContext

/-- `buildHkdfInfoV1` of the context. -/
def info (c : HkdfContext) : String :=
  buildHkdfInfoV1 c.requestId c.businessDomain c.purpose c.keyId c.businessKeyVersion
    c.recipientFingerprint

/-- The part of the info in which bars may stand inside the names. -/
def names (c : HkdfContext) : String :=
  c.requestId ++ "|" ++ c.businessDomain ++ "|" ++ c.purpose ++ "|" ++ c.keyId

/-- What the structure of a request and its certificate admit. -/
structure Admissible (cfg : ServiceConfig) (c : HkdfContext) : Prop where
  request : c.requestId ≠ ""
  requestLength : (textBytes c.requestId).length ≤ 128
  domain : c.businessDomain ∈ cfg.allowedDomains
  purpose : c.purpose ∈ cfg.requiredPurposes
  keyId : c.keyId ≠ ""
  versionPos : 0 < c.businessKeyVersion
  versionLe : c.businessKeyVersion ≤ maxBusinessKeyVersion
  fingerprint : ∃ digest : Bytes, digest.length = 32 ∧ c.recipientFingerprint = toHex digest

end HkdfContext

/-- The names of a configuration: none contains a bar, and no domain is a purpose too. -/
structure PlainNames (cfg : ServiceConfig) : Prop where
  domain : ∀ d ∈ cfg.allowedDomains, '|' ∉ d.toList
  purpose : ∀ p ∈ cfg.requiredPurposes, '|' ∉ p.toList
  apart : ∀ d ∈ cfg.allowedDomains, d ∉ cfg.requiredPurposes

/-! ### What the admission checks say -/

private theorem keyId_of_validateItems {cfg : ServiceConfig} {seenP seenK seen : List String}
    {items : List WrappedKeyItem} (h : validateItems cfg seenP seenK items = .ok seen) :
    ∀ it ∈ items, it.keyId ≠ "" := by
  induction items generalizing seenP seenK with
  | nil => exact fun it hit => nomatch hit
  | cons item items ih =>
    unfold validateItems at h
    split at h
    · cases h
    · rename_i hrej
      have hchecks := firstReject_eq_none_iff.mp hrej
      simp only [itemChecks, List.forall_mem_cons] at hchecks
      intro it hit
      rcases List.mem_cons.mp hit with rfl | hit
      · exact beq_eq_false_iff_ne.mp hchecks.2.2.1
      · exact ih h it hit

/-- **A context of an admitted request** with a certificate digest of 32 bytes is admissible. -/
theorem admissible_of_validateStructure {cfg : ServiceConfig} {requestId domain : String}
    {items : List WrappedKeyItem} (h : validateStructure cfg requestId domain items = .success)
    {item : WrappedKeyItem} (hitem : item ∈ items) {digest : Bytes} (hdigest : digest.length = 32) :
    HkdfContext.Admissible cfg
      ⟨requestId, domain, item.purpose, item.keyId, item.businessKeyVersion, toHex digest⟩ := by
  obtain ⟨hok, -⟩ := itemsOk_of_validateStructure h
  have hallowed := allowed_of_validateStructure h
  obtain ⟨hversion, hversionLt⟩ := hok.version item hitem
  unfold validateStructure at h
  split at h
  · rename_i rc hrej
    have hrefuse : Refuses rc := refuses_of_firstReject rfl hrej
    exact absurd h hrefuse.1
  rename_i hrej
  have hchecks := firstReject_eq_none_iff.mp hrej
  simp only [headChecks, List.forall_mem_cons] at hchecks
  obtain ⟨hrequest, hlength, -⟩ := hchecks
  split at h
  · rename_i rc hitems
    exact absurd h (refuses_of_validateItems hitems).1
  · rename_i seen hitems
    refine ⟨beq_eq_false_iff_ne.mp hrequest, not_lt.mp (of_decide_eq_false hlength),
      List.contains_iff_mem.mp hallowed, hok.required item hitem,
      keyId_of_validateItems hitems item hitem, hversion, ?_, digest, hdigest, rfl⟩
    unfold maxBusinessKeyVersion
    change item.businessKeyVersion ≤ 2 ^ 63 - 1
    omega

/-! ### The end of the info -/

private theorem toList_bar : ("|" : String).toList = ['|'] := by decide

/-- A text whose last two parts are the version and the fingerprint. -/
private theorem toList_barred (front version fingerprint : String) :
    (front ++ "|" ++ version ++ "|" ++ fingerprint).toList =
      (front.toList ++ '|' :: version.toList) ++ '|' :: fingerprint.toList := by
  simp only [String.toList_append, toList_bar, List.append_assoc, List.cons_append,
    List.nil_append]

private theorem append_names (label r d p k v f : String) :
    label ++ r ++ "|" ++ d ++ "|" ++ p ++ "|" ++ k ++ "|" ++ v ++ "|" ++ f =
      label ++ (r ++ "|" ++ d ++ "|" ++ p ++ "|" ++ k) ++ "|" ++ v ++ "|" ++ f := by
  simp only [String.append_assoc]

private theorem info_eq_names (c : HkdfContext) :
    c.info = "openiov|keyprov-wrap|v1|" ++ c.names ++ "|" ++ toString c.businessKeyVersion ++ "|" ++
      c.recipientFingerprint :=
  append_names _ _ _ _ _ _ _

private theorem bar_notMem_toHex (b : Bytes) : '|' ∉ (toHex b).toList :=
  notMem_toHex (by decide) b

private theorem bar_notMem_toString (n : ℕ) :
    '|' ∉ (toString n).toList := notMem_toString (by decide) n

/-- **The version and the fingerprint** are read off the end of the info. -/
theorem info_eq_iff {cfg : ServiceConfig} {c c' : HkdfContext} (hc : c.Admissible cfg)
    (hc' : c'.Admissible cfg) :
    c.info = c'.info ↔ c.names = c'.names ∧ c.businessKeyVersion = c'.businessKeyVersion ∧
      c.recipientFingerprint = c'.recipientFingerprint := by
  constructor
  · intro h
    have hlist : c.info.toList = c'.info.toList := by rw [h]
    rw [info_eq_names, info_eq_names, toList_barred, toList_barred] at hlist
    obtain ⟨digest, -, hfp⟩ := hc.fingerprint
    obtain ⟨digest', -, hfp'⟩ := hc'.fingerprint
    obtain ⟨hfront, hfingerprint⟩ :=
      sep_inj_right (hfp ▸ bar_notMem_toHex digest) (hfp' ▸ bar_notMem_toHex digest') hlist
    obtain ⟨hnames, hversion⟩ :=
      sep_inj_right (bar_notMem_toString _) (bar_notMem_toString _) hfront
    rw [String.toList_append, String.toList_append] at hnames
    exact ⟨String.toList_inj.mp (List.append_cancel_left hnames),
      toString_injective (String.toList_inj.mp hversion), String.toList_inj.mp hfingerprint⟩
  · rintro ⟨hnames, hversion, hfingerprint⟩
    rw [info_eq_names, info_eq_names, hnames, hversion, hfingerprint]

/-! ### Two readings of the names -/

/-- Two readings of one text of strings. -/
private theorem bar_cases {a b x y : String} (h : a ++ "|" ++ x = b ++ "|" ++ y) :
    a = b ∧ x = y ∨ (∃ z, b = a ++ "|" ++ z ∧ x = z ++ "|" ++ y) ∨
      ∃ z, a = b ++ "|" ++ z ∧ y = z ++ "|" ++ x := by
  have hjoin : ∀ s t : String, (s ++ "|" ++ t).toList = s.toList ++ '|' :: t.toList := by
    intro s t
    simp only [String.toList_append, toList_bar, List.append_assoc, List.cons_append,
      List.nil_append]
  have hback : ∀ (s t : String) (z : List Char), s.toList = t.toList ++ '|' :: z →
      s = t ++ "|" ++ String.ofList z := by
    intro s t z hs
    refine String.toList_inj.mp ?_
    rw [hjoin, String.toList_ofList, hs]
  have hback' : ∀ (s t : String) (z : List Char), s.toList = z ++ '|' :: t.toList →
      s = String.ofList z ++ "|" ++ t := by
    intro s t z hs
    refine String.toList_inj.mp ?_
    rw [hjoin, String.toList_ofList, hs]
  have hlist : (a ++ "|" ++ x).toList = (b ++ "|" ++ y).toList := by rw [h]
  rw [hjoin, hjoin] at hlist
  rcases sep_cases hlist with ⟨hab, hxy⟩ | ⟨z, hb, hx⟩ | ⟨z, ha, hy⟩
  · exact .inl ⟨String.toList_inj.mp hab, String.toList_inj.mp hxy⟩
  · exact .inr (.inl ⟨String.ofList z, hback b a z hb, hback' x y z hx⟩)
  · exact .inr (.inr ⟨String.ofList z, hback a b z ha, hback' y x z hy⟩)

private theorem bar_mem (a z : String) : '|' ∈ (a ++ "|" ++ z).toList := by
  simp [toList_bar]

/-- The names of `c'` begin inside the key id of `c`: its key id, behind a bar, contains the domain
and the purpose of `c'` between bars, and all before them is the request of `c'`. -/
def BeginsInKeyId (c c' : HkdfContext) : Prop :=
  ∃ rest, c'.requestId = c.requestId ++ "|" ++ c.businessDomain ++ "|" ++ c.purpose ++ rest ∧
    "|" ++ c.keyId = rest ++ "|" ++ c'.businessDomain ++ "|" ++ c'.purpose ++ "|" ++ c'.keyId

/-- One of the readings begins behind the other. -/
private theorem beginsInKeyId_of_names {c c' : HkdfContext} (hd : '|' ∉ c.businessDomain.toList)
    (hp : '|' ∉ c.purpose.toList) (hd' : '|' ∉ c'.businessDomain.toList)
    (hne : c.purpose ≠ c'.businessDomain) {z : String}
    (hrequest : c'.requestId = c.requestId ++ "|" ++ z)
    (hrest : c.businessDomain ++ "|" ++ (c.purpose ++ "|" ++ c.keyId) =
      z ++ "|" ++ (c'.businessDomain ++ "|" ++ (c'.purpose ++ "|" ++ c'.keyId))) :
    BeginsInKeyId c c' := by
  rcases bar_cases hrest with ⟨rfl, hpurpose⟩ | ⟨w, rfl, hpurpose⟩ | ⟨w, hw, -⟩
  · -- the purpose of the one would be the domain of the other
    rcases bar_cases hpurpose with ⟨heq, -⟩ | ⟨v, hv, -⟩ | ⟨v, hv, -⟩
    · exact absurd heq hne
    · exact absurd (hv ▸ bar_mem _ _) hd'
    · exact absurd (hv ▸ bar_mem _ _) hp
  · rcases bar_cases hpurpose with ⟨rfl, hkey⟩ | ⟨v, rfl, hkey⟩ | ⟨v, hv, -⟩
    · refine ⟨"", ?_, ?_⟩
      · simp only [hrequest, String.append_assoc, String.append_empty]
      · simp only [hkey, String.append_assoc, String.empty_append]
    · refine ⟨"|" ++ v, ?_, ?_⟩
      · simp only [hrequest, String.append_assoc]
      · simp only [hkey, String.append_assoc]
    · exact absurd (hv ▸ bar_mem _ _) hp
  · exact absurd (hw ▸ bar_mem _ _) hd

private theorem names_eq (c : HkdfContext) :
    c.names = c.requestId ++ "|" ++ (c.businessDomain ++ "|" ++ (c.purpose ++ "|" ++ c.keyId)) := by
  simp only [HkdfContext.names, String.append_assoc]

/-- **Two readings of the same names** under plain names: they are the same, or one of them begins
inside the key id of the other. -/
theorem names_cases {cfg : ServiceConfig} (hcfg : PlainNames cfg) {c c' : HkdfContext}
    (hc : c.Admissible cfg) (hc' : c'.Admissible cfg) (h : c.names = c'.names) :
    (c.requestId = c'.requestId ∧ c.businessDomain = c'.businessDomain ∧ c.purpose = c'.purpose ∧
      c.keyId = c'.keyId) ∨ BeginsInKeyId c c' ∨ BeginsInKeyId c' c := by
  have hd := hcfg.domain _ hc.domain
  have hd' := hcfg.domain _ hc'.domain
  have hp := hcfg.purpose _ hc.purpose
  have hp' := hcfg.purpose _ hc'.purpose
  rw [names_eq, names_eq] at h
  rcases bar_cases h with ⟨hrequest, hrest⟩ | ⟨z, hrequest, hrest⟩ | ⟨z, hrequest, hrest⟩
  · rcases bar_cases hrest with ⟨hdomain, hrest⟩ | ⟨z, hz, -⟩ | ⟨z, hz, -⟩
    · rcases bar_cases hrest with ⟨hpurpose, hkey⟩ | ⟨z, hz, -⟩ | ⟨z, hz, -⟩
      · exact .inl ⟨hrequest, hdomain, hpurpose, hkey⟩
      · exact absurd (hz ▸ bar_mem _ _) hp'
      · exact absurd (hz ▸ bar_mem _ _) hp
    · exact absurd (hz ▸ bar_mem _ _) hd'
    · exact absurd (hz ▸ bar_mem _ _) hd
  · have hne : c.purpose ≠ c'.businessDomain :=
      fun heq => hcfg.apart _ hc'.domain (heq ▸ hc.purpose)
    exact .inr (.inl (beginsInKeyId_of_names hd hp hd' hne hrequest hrest))
  · have hne : c'.purpose ≠ c.businessDomain :=
      fun heq => hcfg.apart _ hc.domain (heq ▸ hc'.purpose)
    exact .inr (.inr (beginsInKeyId_of_names hd' hp' hd hne hrequest hrest))

/-! ### Separated contexts -/

/-- No other admissible context has the info of `c`. -/
def Separated (cfg : ServiceConfig) (c : HkdfContext) : Prop :=
  ∀ c' : HkdfContext, c'.Admissible cfg → c'.info = c.info → c' = c

/-- The names of `c` have one reading with admissible parts. -/
def OneReading (cfg : ServiceConfig) (c : HkdfContext) : Prop :=
  ∀ r d p k : String, r ≠ "" → (textBytes r).length ≤ 128 → d ∈ cfg.allowedDomains →
    p ∈ cfg.requiredPurposes → k ≠ "" → r ++ "|" ++ d ++ "|" ++ p ++ "|" ++ k = c.names →
      r = c.requestId ∧ d = c.businessDomain ∧ p = c.purpose ∧ k = c.keyId

/-- The request id, with a bar behind it, contains a domain and a purpose between bars, behind
something. -/
def BarredRequest (cfg : ServiceConfig) (c : HkdfContext) : Prop :=
  ∃ r d p rest, r ≠ "" ∧ d ∈ cfg.allowedDomains ∧ p ∈ cfg.requiredPurposes ∧
    c.requestId ++ "|" = r ++ "|" ++ d ++ "|" ++ p ++ "|" ++ rest

/-- The key id, with a bar before it, contains a domain and a purpose between bars, before
something, and what stands before them fits into a request id. -/
def BarredKeyId (cfg : ServiceConfig) (c : HkdfContext) : Prop :=
  ∃ rest d p k, k ≠ "" ∧ d ∈ cfg.allowedDomains ∧ p ∈ cfg.requiredPurposes ∧
    "|" ++ c.keyId = rest ++ "|" ++ d ++ "|" ++ p ++ "|" ++ k ∧
    (textBytes (c.requestId ++ "|" ++ c.businessDomain ++ "|" ++ c.purpose ++ rest)).length ≤ 128

private theorem separated_iff_oneReading {cfg : ServiceConfig} {c : HkdfContext}
    (hc : c.Admissible cfg) :
    Separated cfg c ↔ OneReading cfg c := by
  constructor
  · intro h r d p k hr hlen hd hp hk hnames
    have hadmissible : HkdfContext.Admissible cfg
        ⟨r, d, p, k, c.businessKeyVersion, c.recipientFingerprint⟩ :=
      ⟨hr, hlen, hd, hp, hk, hc.versionPos, hc.versionLe, hc.fingerprint⟩
    have heq := h _ hadmissible ((info_eq_iff hadmissible hc).mpr ⟨hnames, rfl, rfl⟩)
    rw [← heq]
    exact ⟨rfl, rfl, rfl, rfl⟩
  · intro h c' hc' hinfo
    obtain ⟨hnames, hversion, hfingerprint⟩ := (info_eq_iff hc' hc).mp hinfo
    obtain ⟨hr, hd, hp, hk⟩ := h c'.requestId c'.businessDomain c'.purpose c'.keyId hc'.request
      hc'.requestLength hc'.domain hc'.purpose hc'.keyId hnames
    cases c'
    cases c
    simp only [HkdfContext.mk.injEq] at *
    exact ⟨hr, hd, hp, hk, hversion, hfingerprint⟩

private theorem length_textBytes_append (s t : String) :
    (textBytes (s ++ t)).length = (textBytes s).length + (textBytes t).length := by
  simp [textBytes]

private theorem length_bar : (textBytes "|").length = 1 := by decide

/-- **Under plain names** a context is told by its info exactly unless a bar in its request id or
its key id begins another reading. -/
theorem oneReading_iff {cfg : ServiceConfig} (hcfg : PlainNames cfg) {c : HkdfContext}
    (hc : c.Admissible cfg) :
    OneReading cfg c ↔ ¬BarredRequest cfg c ∧ ¬BarredKeyId cfg c := by
  constructor
  · intro h
    constructor
    · rintro ⟨r, d, p, rest, hr, hd, hp, hrequest⟩
      have hbytes := congrArg (fun s => (textBytes s).length) hrequest
      simp only [length_textBytes_append, length_bar] at hbytes
      have hlen := hc.requestLength
      have hnames : r ++ "|" ++ d ++ "|" ++ p ++ "|" ++
          (rest ++ c.businessDomain ++ "|" ++ c.purpose ++ "|" ++ c.keyId) = c.names := by
        have hjoin : r ++ "|" ++ d ++ "|" ++ p ++ "|" ++
            (rest ++ c.businessDomain ++ "|" ++ c.purpose ++ "|" ++ c.keyId) =
            (r ++ "|" ++ d ++ "|" ++ p ++ "|" ++ rest) ++
              (c.businessDomain ++ "|" ++ (c.purpose ++ "|" ++ c.keyId)) := by
          simp only [String.append_assoc]
        rw [hjoin, ← hrequest, names_eq]
      have hk : rest ++ c.businessDomain ++ "|" ++ c.purpose ++ "|" ++ c.keyId ≠ "" := by
        intro hempty
        have hmem := bar_mem (rest ++ c.businessDomain ++ "|" ++ c.purpose) c.keyId
        rw [hempty] at hmem
        cases hmem
      obtain ⟨rfl, -, -, -⟩ := h r d p _ hr (by omega) hd hp hk hnames
      omega
    · rintro ⟨rest, d, p, k, hk, hd, hp, hkey, hlen⟩
      have hnames : (c.requestId ++ "|" ++ c.businessDomain ++ "|" ++ c.purpose ++ rest) ++ "|" ++
          d ++ "|" ++ p ++ "|" ++ k = c.names := by
        have hjoin : (c.requestId ++ "|" ++ c.businessDomain ++ "|" ++ c.purpose ++ rest) ++ "|" ++
            d ++ "|" ++ p ++ "|" ++ k =
            c.requestId ++ "|" ++ c.businessDomain ++ "|" ++ c.purpose ++
              (rest ++ "|" ++ d ++ "|" ++ p ++ "|" ++ k) := by
          simp only [String.append_assoc]
        rw [hjoin, ← hkey, HkdfContext.names]
        simp only [String.append_assoc]
      have hr : c.requestId ++ "|" ++ c.businessDomain ++ "|" ++ c.purpose ++ rest ≠ "" := by
        intro hempty
        have hzero := congrArg (fun s => (textBytes s).length) hempty
        simp only [length_textBytes_append, length_bar] at hzero
        have hnil : (textBytes "").length = 0 := by decide
        omega
      obtain ⟨heq, -, -, -⟩ := h _ d p k hr hlen hd hp hk hnames
      have hbytes := congrArg (fun s => (textBytes s).length) heq
      simp only [length_textBytes_append, length_bar] at hbytes
      omega
  · rintro ⟨hrequest, hkeyId⟩ r d p k hr hlen hd hp hk hnames
    have hc' : HkdfContext.Admissible cfg
        ⟨r, d, p, k, c.businessKeyVersion, c.recipientFingerprint⟩ :=
      ⟨hr, hlen, hd, hp, hk, hc.versionPos, hc.versionLe, hc.fingerprint⟩
    rcases names_cases hcfg hc' hc hnames with heq | ⟨rest, hreq, hkey⟩ | ⟨rest, hreq, hkey⟩
    · exact heq
    · -- the request of `c` continues the other one
      refine absurd ⟨r, d, p, ?_⟩ hrequest
      have hstart : rest ++ "|" ++ (c.businessDomain ++ "|" ++ (c.purpose ++ "|" ++ c.keyId)) =
          "" ++ "|" ++ k := by
        rw [String.empty_append, hkey]
        simp only [String.append_assoc]
      rcases bar_cases hstart with ⟨rfl, -⟩ | ⟨z, hz, -⟩ | ⟨z, rfl, -⟩
      · refine ⟨"", hr, hd, hp, ?_⟩
        rw [hreq]
        simp only [String.append_assoc, String.append_empty]
      · have hmem := bar_mem rest z
        rw [← hz] at hmem
        cases hmem
      · refine ⟨z ++ "|", hr, hd, hp, ?_⟩
        rw [hreq]
        simp only [String.append_assoc, String.empty_append]
    · refine absurd ⟨rest, d, p, k, hk, hd, hp, hkey, ?_⟩ hkeyId
      rw [← hreq]
      exact hlen

/-- **The info tells a context apart** from every other admissible one exactly if its names have
one reading; and under plain names exactly if neither its request id nor its key id contains a
domain and a purpose between bars, where they begin another reading. -/
theorem hkdf_info_separates_iff (cfg : ServiceConfig) (c : HkdfContext) (hc : c.Admissible cfg) :
    (Separated cfg c ↔ OneReading cfg c) ∧
      (PlainNames cfg → (Separated cfg c ↔ ¬BarredRequest cfg c ∧ ¬BarredKeyId cfg c)) :=
  ⟨separated_iff_oneReading hc,
    fun hcfg => (separated_iff_oneReading hc).trans (oneReading_iff hcfg hc)⟩

/-! ### A shared info -/

/-- The configuration of a service with every list at its default. -/
def defaultService : ServiceConfig := ServiceConfig.ofConfig { enabled := true }

/-- An item of the right structure. -/
def plainItem (purpose keyId : String) : WrappedKeyItem where
  purpose := purpose
  keyId := keyId
  businessKeyVersion := 1
  algorithm := defaultKeyAlgorithm
  wrappedKey := [1]
  parameters := [1]
  validFromMs := 1
  validToMs := 2
  wrappingSuite := wrappingSuiteEcdhEsP256
  envelopeFormat := .ecdhEsP256V1
  envelopeDigest := List.replicate 32 0
  keyCheckValue := {}
  keyCheckValuePresent := true

/-- The context of an uplink key of `plainItem`. -/
def uplinkContext (requestId keyId : String) : HkdfContext where
  requestId := requestId
  businessDomain := businessDomainV2c
  purpose := purposeUplink
  keyId := keyId
  businessKeyVersion := 1
  recipientFingerprint := toHex (List.replicate 32 0)

private theorem plainNames_defaultService : PlainNames defaultService where
  domain := by decide
  purpose := by decide
  apart := by decide

private theorem admissible_uplinkContext {requestId keyId : String}
    (h : validateStructure defaultService requestId businessDomainV2c
      [plainItem purposeUplink keyId, plainItem purposeDownlink "d"] = .success) :
    (uplinkContext requestId keyId).Admissible defaultService := by
  have hmem : plainItem purposeUplink keyId ∈
      [plainItem purposeUplink keyId, plainItem purposeDownlink "d"] := List.mem_cons_self
  have hdigest : (List.replicate 32 (0 : UInt8)).length = 32 := List.length_replicate
  exact admissible_of_validateStructure h hmem hdigest

/-- The info of a request and a key id without bars is its own. -/
theorem hkdf_info_separates_plain :
    Separated defaultService (uplinkContext "r" "k") ↔
      ¬BarredRequest defaultService (uplinkContext "r" "k") ∧
        ¬BarredKeyId defaultService (uplinkContext "r" "k") :=
  (hkdf_info_separates_iff defaultService (uplinkContext "r" "k")
    (admissible_uplinkContext (by decide +kernel))).2 plainNames_defaultService

/-- **Two admitted requests share an info**: what the one has in its key id the other one has in
its request id. -/
theorem hkdf_info_shared :
    validateStructure defaultService "a" businessDomainV2c
        [plainItem purposeUplink "x|V2C_COMM|UPLINK_AEAD|y", plainItem purposeDownlink "d"] =
      .success ∧
    validateStructure defaultService "a|V2C_COMM|UPLINK_AEAD|x" businessDomainV2c
        [plainItem purposeUplink "y", plainItem purposeDownlink "d"] = .success ∧
    (uplinkContext "a" "x|V2C_COMM|UPLINK_AEAD|y").info =
      (uplinkContext "a|V2C_COMM|UPLINK_AEAD|x" "y").info ∧
    uplinkContext "a" "x|V2C_COMM|UPLINK_AEAD|y" ≠
      uplinkContext "a|V2C_COMM|UPLINK_AEAD|x" "y" := by
  decide +kernel

end TboxSec.Keyprov
