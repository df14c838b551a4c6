import Mathlib.Data.String.Basic
import TboxSec.Keyprov.Binding
import TboxSec.Keyprov.Runs

/-!
# What the request digest identifies

The digest is taken over the texts of the request and one stretch of bytes for each item, the
items in purpose order. Neither the stretch nor anything else holds the validity window.

* **One item**: the stretch mixes segments, bare 64-bit numbers and bare varints. Read from the
  left it gives back the item without its window; the validated envelope follows from the item.
* **All items**: the stretches are repeated for equally many items, and the order of the items
  is forgotten by sorting, because a validated request has each purpose once.
* **What is missing**: two requests that differ in validity windows alone have one digest.

The digest is a SHA-256, so equal digests say nothing by themselves. What is assumed is that no two
of the byte strings that were hashed for the two requests collide (`hashedFor`): the parts of each
item, the input of its envelope digest, and the input of the request digest itself.
-/

namespace TboxSec.Keyprov

open Canonical

variable {D : Deployment}

/-! ### Requests and what of them is hashed -/

/-- The item without its validity window. -/
def WrappedKeyItem.withoutWindow (item : WrappedKeyItem) : WrappedKeyItem :=
  { item with validFromMs := 0, validToMs := 0 }

/-- The request without its validity windows. -/
def ImportRequest.withoutWindows (q : ImportRequest) : ImportRequest :=
  { q with items := q.items.map WrappedKeyItem.withoutWindow }

/-- The same request: request id, domain, and the items in any order. -/
def ImportRequest.Same (q q' : ImportRequest) : Prop :=
  q.requestId = q'.requestId ∧ q.domain = q'.domain ∧ q.items.Perm q'.items

instance (q q' : ImportRequest) : Decidable (q.Same q') :=
  inferInstanceAs (Decidable (_ ∧ _ ∧ _))

/-- The request passes `validate_structure`, and `validateEnvelope` for each item. -/
structure Validated (D : Deployment) (q : ImportRequest) (b : BusinessKeyDeviceBinding)
    (rows : List Row) : Prop where
  structural : validateStructure D.service q.requestId q.domain q.items = .success
  envelopes : checkRows D q.requestId q.domain b q.items = .ok rows

/-- The request passes validation, and `d` is its request digest. -/
def HasDigest (D : Deployment) (q : ImportRequest) (d : String) : Prop :=
  ∃ b rows, Validated D q b rows ∧ d = buildRequestDigest D q.requestId q.domain rows

/-- What is hashed for the request digest: its input, and the two byte fields that enter it by
their own digests. -/
def hashedFor (D : Deployment) (q : ImportRequest) (rows : List Row) : List Bytes :=
  requestDigestInput D q.requestId q.domain rows ::
    q.items.flatMap fun it => [it.wrappedKey, it.parameters]

/-- SHA-256 has no collision among these byte strings. -/
def NoCollision (D : Deployment) (hashed : List Bytes) : Prop :=
  ∀ a ∈ hashed, ∀ b ∈ hashed, D.platform.crypto.sha256 a = D.platform.crypto.sha256 b → a = b

instance (D : Deployment) (hashed : List Bytes) : Decidable (NoCollision D hashed) :=
  inferInstanceAs (Decidable (∀ a ∈ _, ∀ b ∈ _, _ → _))

/-! ### One item -/

/-- The row without the validity window of its item. -/
def Row.withoutWindow (r : Row) : Row := (r.1.withoutWindow, r.2)

/-- What validation says of an item and its envelope. -/
structure RowOk (D : Deployment) (r : Row) : Prop where
  parsed : parseEcdhEsP256Parameters D.platform.envelope r.1.parameters = .ok r.2.params
  purpose : textBytes r.1.purpose ∈ Short
  keyId : textBytes r.1.keyId ∈ Short
  version : r.1.businessKeyVersion < 2 ^ 64
  algorithm : r.1.algorithm = defaultKeyAlgorithm
  suite : r.1.wrappingSuite = wrappingSuiteEcdhEsP256
  format : r.1.envelopeFormat = .ecdhEsP256V1
  digest : r.1.envelopeDigest ∈ Short
  present : r.1.keyCheckValuePresent = true
  envelope : r.2 = ⟨r.2.params, r.2.params.canonicalAad, r.1.envelopeDigest, r.1.keyCheckValue⟩

/-- An item is as good without its window. -/
theorem RowOk.withoutWindow {r : Row} (h : RowOk D r) : RowOk D r.withoutWindow :=
  { parsed := h.parsed, purpose := h.purpose, keyId := h.keyId, version := h.version
    algorithm := h.algorithm, suite := h.suite, format := h.format, digest := h.digest
    present := h.present, envelope := h.envelope }

/-- The stretch of one item. -/
def rowBytes (D : Deployment) (r : Row) : Bytes := appendRow D [] r

/-- The loop of the source appends the stretch of one item. -/
private theorem appendRow_eq (buf : Bytes) (r : Row) : appendRow D buf r = buf ++ rowBytes D r := by
  simp only [rowBytes, appendRow, appendString_eq, appendLengthPrefixed_eq, appendUint64be,
    appendEnumVarint, List.append_assoc, List.nil_append]

/-- The fields of the stretch, from the left. -/
private theorem rowBytes_eq (r : Row) :
    rowBytes D r =
      segment (textBytes r.1.purpose) ++ (segment (textBytes r.1.keyId) ++
        (appendUint64be [] r.1.businessKeyVersion ++ (segment (textBytes r.1.algorithm) ++
          (appendEnumVarint [] ((wrappingSuiteEnumValue r.1.wrappingSuite).getD 0) ++
            (appendEnumVarint [] r.1.envelopeFormat.value ++
              (segment (D.platform.crypto.sha256 r.1.wrappedKey) ++
                (segment (D.platform.crypto.sha256 r.1.parameters) ++
                  (segment r.2.envelopeDigest ++ (segment r.1.keyCheckValue.toBytes ++
                    (segment r.2.params.recipientCertificateDigest ++
                      (appendUint64be [] r.2.params.rootKeyVersion ++
                        (segment (textBytes r.2.params.derivationVersion) ++
                          segment (textBytes r.2.params.operationId))))))))))))) := by
  simp only [rowBytes, appendRow, appendString_eq, appendLengthPrefixed_eq, appendUint64be,
    appendEnumVarint, List.append_assoc, List.nil_append]

/-- Over all items it appends their stretches one after another. -/
private theorem foldl_appendRow (rows : List Row) (buf : Bytes) :
    rows.foldl (appendRow D) buf = buf ++ rows.flatMap (rowBytes D) := by
  induction rows generalizing buf with
  | nil => simp only [List.foldl_nil, List.flatMap_nil, List.append_nil]
  | cons r rows ih =>
    rw [List.foldl_cons, ih, appendRow_eq, List.flatMap_cons, List.append_assoc]

/-- Three bytes are one check value. -/
private theorem Kcv.toBytes_injective : Function.Injective Kcv.toBytes := by
  intro k k' h
  simp only [Kcv.toBytes, List.cons.injEq, and_true] at h
  obtain ⟨h0, h1, h2⟩ := h
  exact Kcv.mk.injEq _ _ _ _ _ _ ▸ ⟨h0, h1, h2⟩

/-- A digest fits the prefix of a segment. -/
private theorem short_sha256 (b : Bytes) : D.platform.crypto.sha256 b ∈ Short :=
  lt_of_eq_of_lt (D.platform.crypto.sha256_length b) (by norm_num)

/-- Validated rows without a window whose hashed fields are among `hashed`. -/
def Rows (D : Deployment) (hashed : List Bytes) : Set Row :=
  {r | RowOk D r ∧ r.1.validFromMs = 0 ∧ r.1.validToMs = 0 ∧ r.1.wrappedKey ∈ hashed ∧
    r.1.parameters ∈ hashed}

/-- **The stretch of an item gives the item back**, its validity window apart. -/
theorem rowBytes_selfDelimiting {hashed : List Bytes} (hX : NoCollision D hashed) :
    SelfDelimiting (Rows D hashed) (rowBytes D) := by
  rintro ⟨it, v⟩ ⟨hr, hfrom, hto, hkey, hparams⟩ ⟨it', v'⟩ ⟨hr', hfrom', hto', hkey', hparams'⟩
    x y heq
  have halgorithm : it.algorithm = it'.algorithm := hr.algorithm.trans hr'.algorithm.symm
  have hsuite : it.wrappingSuite = it'.wrappingSuite := hr.suite.trans hr'.suite.symm
  have hformat : it.envelopeFormat = it'.envelopeFormat := hr.format.trans hr'.format.symm
  have hdigests : v.envelopeDigest = it.envelopeDigest := by
    rw [show v = _ from hr.envelope]
  have hdigests' : v'.envelopeDigest = it'.envelopeDigest := by
    rw [show v' = _ from hr'.envelope]
  simp only [rowBytes_eq, List.append_assoc, halgorithm, hsuite, hformat, hdigests,
    hdigests'] at heq
  -- the fields of the item, from the left
  obtain ⟨hpurpose, heq⟩ := segment_selfDelimiting hr.purpose hr'.purpose heq
  obtain ⟨hid, heq⟩ := segment_selfDelimiting hr.keyId hr'.keyId heq
  obtain ⟨hversion, heq⟩ := appendUint64be_selfDelimiting hr.version hr'.version heq
  have heq := List.append_cancel_left (List.append_cancel_left (List.append_cancel_left heq))
  obtain ⟨hwrapped, heq⟩ := segment_selfDelimiting (short_sha256 _) (short_sha256 _) heq
  obtain ⟨hparameters, heq⟩ := segment_selfDelimiting (short_sha256 _) (short_sha256 _) heq
  obtain ⟨hdigest, heq⟩ := segment_selfDelimiting hr.digest hr'.digest heq
  have hshort : ∀ k : Kcv, k.toBytes ∈ Short := fun k =>
    lt_of_eq_of_lt (show k.toBytes.length = 3 from rfl) (by norm_num)
  obtain ⟨hcheck, heq⟩ := segment_selfDelimiting (hshort _) (hshort _) heq
  have hpurpose := textBytes_injective hpurpose
  have hid := textBytes_injective hid
  have hwrapped := hX _ hkey _ hkey' hwrapped
  have hparameters := hX _ hparams _ hparams' hparameters
  have hcheck := Kcv.toBytes_injective hcheck
  -- the same parameters parse to the same message, so the rest of the stretch is the same
  have hmessage : v.params = v'.params := by
    have hparse := hr.parsed
    rw [show it.parameters = it'.parameters from hparameters, hr'.parsed] at hparse
    exact (Except.ok.inj hparse).symm
  rw [hmessage] at heq
  have hrest := List.append_cancel_left (List.append_cancel_left (List.append_cancel_left
    (List.append_cancel_left heq)))
  have hitem : it = it' := by
    obtain ⟨⟩ := it
    obtain ⟨⟩ := it'
    simp only [WrappedKeyItem.mk.injEq]
    exact ⟨hpurpose, hid, hversion, halgorithm, hwrapped, hparameters, hfrom.trans hfrom'.symm,
      hto.trans hto'.symm, hsuite, hformat, hdigest, hcheck, hr.present.trans hr'.present.symm⟩
  have henvelope : v = v' := by
    rw [show v = _ from hr.envelope, show v' = _ from hr'.envelope, hmessage]
    subst hitem
    rfl
  exact ⟨Prod.ext hitem henvelope, hrest⟩

/-! ### What validation gives -/

/-- What passes the check of the envelopes: the items as they came, each with the parameters that
validation found in its envelope under the limits of the service. -/
private theorem checkRows_validated {requestId domain : String} {b : BusinessKeyDeviceBinding}
    {items : List WrappedKeyItem} {rows : List Row}
    (h : checkRows D requestId domain b items = .ok rows) :
    rows.map Prod.fst = items ∧
      ∀ r ∈ rows, ∃ limits : EnvelopeLimits, limits.maxCanonicalAad < 2 ^ 32 ∧
        validateEnvelope D.platform.crypto D.platform.envelope r.1
          (envelopeContext requestId domain b r.1) limits = .ok r.2 := by
  induction items generalizing rows with
  | nil =>
    cases h
    exact ⟨rfl, fun r hr => absurd hr List.not_mem_nil⟩
  | cons item items ih =>
    unfold checkRows at h
    split at h
    · cases h
    rename_i v hv
    split at h
    · cases h
    rename_i rows' hrows
    cases h
    obtain ⟨hmap, hvalidated⟩ := ih hrows
    refine ⟨by rw [List.map_cons, hmap], fun r hr => ?_⟩
    rcases List.mem_cons.mp hr with rfl | hr
    · exact ⟨_, by norm_num, hv⟩
    · exact hvalidated r hr

/-- Every item of a request that passes the structure check has a key check value. -/
private theorem present_of_validateItems {cfg : ServiceConfig} {seenP seenK seen : List String}
    {items : List WrappedKeyItem} (h : validateItems cfg seenP seenK items = .ok seen) :
    ∀ it ∈ items, it.keyCheckValuePresent = true := by
  induction items generalizing seenP seenK with
  | nil => exact fun it hit => absurd hit List.not_mem_nil
  | cons item items ih =>
    unfold validateItems at h
    split at h
    · cases h
    rename_i hrej
    have hpresent :=
      firstReject_eq_none_iff.mp hrej (!item.keyCheckValuePresent, .wrappedKeyInvalid)
      (by simp [itemChecks])
    intro it hit
    rcases List.mem_cons.mp hit with rfl | hit
    · simpa using hpresent
    · exact ih h it hit

/-- The item loop of a structurally valid request ran to its end, after the checks on the
head of the request. -/
private theorem loop_of_validateStructure {cfg : ServiceConfig} {requestId domain : String}
    {items : List WrappedKeyItem} (h : validateStructure cfg requestId domain items = .success) :
    (∀ c ∈ headChecks cfg requestId domain items, c.1 = false) ∧
      ∃ seen, validateItems cfg [] [] items = .ok seen := by
  unfold validateStructure at h
  split at h
  · rename_i rc hrej
    have hrefuse : Refuses rc := refuses_of_firstReject rfl hrej
    exact absurd h hrefuse.1
  rename_i hrej
  split at h
  · rename_i rc hitems
    exact absurd h (refuses_of_validateItems hitems).1
  · rename_i seen hitems
    exact ⟨firstReject_eq_none_iff.mp hrej, seen, hitems⟩

/-- The additional data that was rebuilt for an envelope holds the domain and the key identifier, so
a bound on it bounds them. -/
private theorem short_of_rebuiltAad {requestId domain : String} {item : WrappedKeyItem}
    {params : EnvelopeParameters}
    (h : (rebuildEnvelopeAad requestId domain item params).length < 2 ^ 32) :
    textBytes domain ∈ Short ∧ textBytes item.keyId ∈ Short := by
  rw [rebuildEnvelopeAad, buildParProtoAadV1_eq_raw, Raw.buildParProtoAadV1_eq] at h
  constructor
  · refine lt_of_le_of_lt (length_le_frame ?_) h
    simp [Raw.EnvelopeAadInput.segments, EnvelopeAadInput.raw]
  · refine lt_of_le_of_lt (length_le_frame ?_) h
    simp [Raw.EnvelopeAadInput.segments, EnvelopeAadInput.raw]

section Request

variable {q q' : ImportRequest} {b b' : BusinessKeyDeviceBinding} {rows rows' : List Row}

/-- The rows are the items with what was found in their envelopes. -/
private theorem Validated.map_fst (h : Validated D q b rows) : rows.map Prod.fst = q.items :=
  (checkRows_validated h.envelopes).1

/-- A validated request has one item for each required purpose. -/
theorem Validated.length_eq (h : Validated D q b rows) :
    rows.length = D.service.requiredPurposes.length := by
  obtain ⟨hhead, -⟩ := loop_of_validateStructure h.structural
  simp only [headChecks, List.forall_mem_cons] at hhead
  obtain ⟨-, -, -, -, hlength, -⟩ := hhead
  have hlength : q.items.length = D.service.requiredPurposes.length :=
    bne_eq_false_iff_eq.mp hlength
  rw [← hlength, ← h.map_fst, List.length_map]

/-- The identifier of a validated request is short: the structure check bounds it. -/
private theorem Validated.short_requestId (h : Validated D q b rows) :
    textBytes q.requestId ∈ Short := by
  obtain ⟨hhead, -⟩ := loop_of_validateStructure h.structural
  simp only [headChecks, List.forall_mem_cons] at hhead
  have hlength := Nat.not_lt.mp (of_decide_eq_false hhead.2.1)
  exact lt_of_le_of_lt hlength (by norm_num)

/-- The rebuilt additional data of a row is short. -/
private theorem Validated.length_aad_lt (h : Validated D q b rows) {r : Row} (hr : r ∈ rows) :
    (rebuildEnvelopeAad q.requestId q.domain r.1 r.2.params).length < 2 ^ 32 := by
  obtain ⟨limits, hlimit, hv⟩ := (checkRows_validated h.envelopes).2 r hr
  have hacc := accepted_of_validateEnvelope hv
  have haad : rebuildEnvelopeAad q.requestId q.domain r.1 r.2.params =
      r.2.params.canonicalAad := hacc.aad
  rw [haad]
  exact lt_of_le_of_lt hacc.aadLength hlimit

/-- Its domain is short. -/
private theorem Validated.short_domain (h : Validated D q b rows) : textBytes q.domain ∈ Short := by
  have hne : rows ≠ [] := by
    rintro rfl
    exact D.service.requiredPurposes_ne (List.length_eq_zero_iff.mp h.length_eq.symm)
  obtain ⟨r, hr⟩ := List.exists_mem_of_ne_nil _ hne
  exact (short_of_rebuiltAad (h.length_aad_lt hr)).1

/-- **Every item of a validated request can be read back from its stretch.** -/
private theorem Validated.rowOk (h : Validated D q b rows) {r : Row} (hr : r ∈ rows) :
    RowOk D r := by
  obtain ⟨limits, -, hv⟩ := (checkRows_validated h.envelopes).2 r hr
  have hacc := accepted_of_validateEnvelope hv
  obtain ⟨-, seen, hloop⟩ := loop_of_validateStructure h.structural
  have hitem : r.1 ∈ q.items := h.map_fst ▸ List.mem_map_of_mem hr
  have hversion := hacc.version
  unfold maxBusinessKeyVersion at hversion
  refine
    { parsed := hacc.parsed
      purpose := ?_
      keyId := (short_of_rebuiltAad (h.length_aad_lt hr)).2
      version := by omega
      algorithm := hacc.algorithm
      suite := hacc.suite
      format := hacc.format
      digest := hacc.digest ▸ short_sha256 _
      present := present_of_validateItems hloop r.1 hitem
      envelope := hacc.validated }
  show (textBytes r.1.purpose).length < 2 ^ 32
  rcases hacc.purpose with hp | hp
  · rw [hp]
    decide
  · rw [hp]
    decide

/-- No purpose comes twice. -/
theorem Validated.nodup (h : Validated D q b rows) : (rows.map (·.1.purpose)).Nodup := by
  have hitems := (itemsOk_of_validateStructure h.structural).1.nodup
  rwa [← h.map_fst, List.map_map] at hitems

/-! ### The order of the items -/

/-- The items in purpose order. -/
def sortRows (rows : List Row) : List Row :=
  rows.insertionSort fun a b => a.1.purpose ≤ b.1.purpose

/-- Sorting only reorders. -/
private theorem sortRows_perm (rows : List Row) : (sortRows rows).Perm rows :=
  List.perm_insertionSort _ rows

/-- The sorting looks at purposes, not at windows. -/
private theorem map_withoutWindow_sortRows (rows : List Row) :
    (sortRows rows).map Row.withoutWindow = sortRows (rows.map Row.withoutWindow) :=
  List.map_insertionSort _ _ Row.withoutWindow rows fun _ _ _ _ => Iff.rfl

/-- **Sorting forgets the order**, when no purpose occurs twice. -/
theorem sortRows_eq_of_perm {l m : List Row} (hnodup : (l.map (·.1.purpose)).Nodup)
    (h : l.Perm m) : sortRows l = sortRows m := by
  have hsorted : ∀ k : List Row,
      (sortRows k).Pairwise fun a b => a.1.purpose ≤ b.1.purpose := fun k =>
    haveI : Std.Total fun a b : Row => a.1.purpose ≤ b.1.purpose :=
      ⟨fun a b => le_total a.1.purpose b.1.purpose⟩
    haveI : IsTrans Row fun a b => a.1.purpose ≤ b.1.purpose := ⟨fun a b c => le_trans⟩
    List.pairwise_insertionSort _ k
  have hperm : (sortRows l).Perm (sortRows m) :=
    (sortRows_perm l).trans (h.trans (sortRows_perm m).symm)
  refine List.Perm.eq_of_pairwise (fun r r' hr hr' hle hge => ?_) (hsorted l) (hsorted m) hperm
  have hr : r ∈ l := (sortRows_perm l).subset hr
  have hr' : r' ∈ l := h.symm.subset ((sortRows_perm m).subset hr')
  exact List.inj_on_of_nodup_map hnodup hr hr' (le_antisymm hle hge)

/-! ### The digest -/

/-- The texts of the request and the stretches of its sorted items. -/
private theorem requestDigestInput_eq (requestId domain : String) (rows : List Row) :
    requestDigestInput D requestId domain rows =
      segment (textBytes "openiov|keyprov-req|v1") ++ (segment (textBytes requestId) ++
        (segment (textBytes domain) ++ (segment (textBytes D.provider.providerVersion) ++
          (sortRows rows).flatMap (rowBytes D)))) := by
  simp only [requestDigestInput, foldl_appendRow, sortRows, appendString_eq, List.append_assoc,
    List.nil_append]

/-- The digest of a request is no empty text, which is what a record without one holds. -/
theorem buildRequestDigest_ne_empty (requestId domain : String) (rows : List Row) :
    buildRequestDigest D requestId domain rows ≠ "" :=
  toHex_ne_empty (List.ne_nil_of_length_eq_add_one (D.platform.crypto.sha256_length _))

/-- The windows do not enter. -/
private theorem requestDigestInput_withoutWindow (requestId domain : String) (rows : List Row) :
    requestDigestInput D requestId domain (rows.map Row.withoutWindow) =
      requestDigestInput D requestId domain rows := by
  have hrow : ∀ r : Row, rowBytes D r.withoutWindow = rowBytes D r := fun _ => rfl
  rw [requestDigestInput_eq, requestDigestInput_eq, ← map_withoutWindow_sortRows, List.flatMap_map]
  simp only [hrow]

/-- The row of an item, made from the item alone. -/
def rowOf (D : Deployment) (item : WrappedKeyItem) : Option Row :=
  match parseEcdhEsP256Parameters D.platform.envelope item.parameters with
  | .error _ => none
  | .ok params =>
    some (item, ⟨params, params.canonicalAad, item.envelopeDigest, item.keyCheckValue⟩)

/-- The row of an item is a function of the item. -/
private theorem RowOk.rowOf_eq {r : Row} (h : RowOk D r) : rowOf D r.1 = some r := by
  simp only [rowOf, h.parsed, ← h.envelope]

/-- Rows of the same items are the same. -/
private theorem rows_eq_filterMap {l : List Row} (h : ∀ r ∈ l, RowOk D r) :
    l = (l.map Prod.fst).filterMap (rowOf D) := by
  induction l with
  | nil => rfl
  | cons r l ih =>
    rw [List.map_cons, List.filterMap_cons, (h r (by simp)).rowOf_eq]
    exact congrArg _ (ih fun r' hr' => h r' (by simp [hr']))

/-- The rows depend on the items alone, not on the device binding they were checked under. -/
theorem Validated.rows_eq (h : Validated D q b rows) : rows = q.items.filterMap (rowOf D) := by
  rw [rows_eq_filterMap fun r hr => h.rowOk hr, h.map_fst]

/-- Dropping the windows of the rows drops those of the items. -/
private theorem map_fst_withoutWindow (h : Validated D q b rows) :
    (rows.map Row.withoutWindow).map Prod.fst = q.withoutWindows.items := by
  rw [ImportRequest.withoutWindows, ← h.map_fst, List.map_map, List.map_map]
  rfl

/-- The rows without their windows can be read back as well. -/
private theorem Validated.rowOk_withoutWindow (h : Validated D q b rows) :
    ∀ r ∈ rows.map Row.withoutWindow, RowOk D r := by
  intro r hr
  obtain ⟨r₀, hr₀, rfl⟩ := List.mem_map.mp hr
  exact (h.rowOk hr₀).withoutWindow

/-- **The digest input depends on the request without its windows.** -/
theorem requestDigestInput_eq_of_same (h : Validated D q b rows) (h' : Validated D q' b' rows')
    (hsame : q.withoutWindows.Same q'.withoutWindows) :
    requestDigestInput D q.requestId q.domain rows =
      requestDigestInput D q'.requestId q'.domain rows' := by
  obtain ⟨hrequest, hdomain, hperm⟩ := hsame
  have hrequest : q.requestId = q'.requestId := hrequest
  have hdomain : q.domain = q'.domain := hdomain
  have hrows : (rows.map Row.withoutWindow).Perm (rows'.map Row.withoutWindow) := by
    rw [rows_eq_filterMap h.rowOk_withoutWindow, rows_eq_filterMap h'.rowOk_withoutWindow,
      map_fst_withoutWindow h, map_fst_withoutWindow h']
    exact hperm.filterMap _
  have hnodup : ((rows.map Row.withoutWindow).map (·.1.purpose)).Nodup := by
    rw [List.map_map]
    exact h.nodup
  have hsort := sortRows_eq_of_perm hnodup hrows
  rw [← requestDigestInput_withoutWindow _ _ rows, ← requestDigestInput_withoutWindow _ _ rows',
    hrequest, hdomain, requestDigestInput_eq, requestDigestInput_eq, hsort]

/-- The wrapped key and the parameters of every item are among what was hashed. -/
private theorem mem_hashedFor (h : Validated D q b rows) {r : Row} (hr : r ∈ rows) :
    r.1.wrappedKey ∈ hashedFor D q rows ∧ r.1.parameters ∈ hashedFor D q rows := by
  have hitem : r.1 ∈ q.items := h.map_fst ▸ List.mem_map_of_mem hr
  constructor
  · exact List.mem_cons_of_mem _ (List.mem_flatMap.mpr ⟨r.1, hitem, by simp⟩)
  · exact List.mem_cons_of_mem _ (List.mem_flatMap.mpr ⟨r.1, hitem, by simp⟩)

/-- The sorted rows without windows are self-delimited. -/
private theorem Validated.mem_rows (h : Validated D q b rows) {hashed : List Bytes}
    (hsub : hashedFor D q rows ⊆ hashed) :
    ∀ r ∈ sortRows (rows.map Row.withoutWindow), r ∈ Rows D hashed := by
  intro r hr
  obtain ⟨r₀, hr₀, rfl⟩ := List.mem_map.mp ((sortRows_perm _).subset hr)
  obtain ⟨hkey, hparams⟩ := mem_hashedFor h hr₀
  exact ⟨(h.rowOk hr₀).withoutWindow, rfl, rfl, hsub hkey, hsub hparams⟩

/-- **The digest input gives the request back**, its windows apart. -/
theorem same_of_requestDigestInput_eq (h : Validated D q b rows) (h' : Validated D q' b' rows')
    (hX : NoCollision D (hashedFor D q rows ++ hashedFor D q' rows'))
    (heq : requestDigestInput D q.requestId q.domain rows =
      requestDigestInput D q'.requestId q'.domain rows') :
    q.withoutWindows.Same q'.withoutWindows := by
  rw [← requestDigestInput_withoutWindow _ _ rows, ← requestDigestInput_withoutWindow _ _ rows',
    requestDigestInput_eq, requestDigestInput_eq] at heq
  have heq := List.append_cancel_left heq
  obtain ⟨hrequest, heq⟩ := segment_selfDelimiting h.short_requestId h'.short_requestId heq
  obtain ⟨hdomain, heq⟩ := segment_selfDelimiting h.short_domain h'.short_domain heq
  have heq := List.append_cancel_left heq
  have hlength : (sortRows (rows.map Row.withoutWindow)).length =
      (sortRows (rows'.map Row.withoutWindow)).length := by
    rw [(sortRows_perm _).length_eq, (sortRows_perm _).length_eq, List.length_map,
      List.length_map, h.length_eq, h'.length_eq]
  have hsorted : sortRows (rows.map Row.withoutWindow) =
      sortRows (rows'.map Row.withoutWindow) := by
    refine ((rowBytes_selfDelimiting hX).flatMap (x := []) (y := [])
      (h.mem_rows (List.subset_append_left _ _))
      (h'.mem_rows (List.subset_append_right _ _)) hlength ?_).1
    rw [List.append_nil, List.append_nil, heq]
  have hrows : (rows.map Row.withoutWindow).Perm (rows'.map Row.withoutWindow) :=
    (sortRows_perm _).symm.trans (hsorted ▸ sortRows_perm _)
  refine ⟨textBytes_injective hrequest, textBytes_injective hdomain, ?_⟩
  rw [← map_fst_withoutWindow h, ← map_fst_withoutWindow h']
  exact hrows.map _

/-- **What one digest means**: the same request, validity windows apart. -/
theorem buildRequestDigest_eq_iff (h : Validated D q b rows) (h' : Validated D q' b' rows')
    (hX : NoCollision D (hashedFor D q rows ++ hashedFor D q' rows')) :
    buildRequestDigest D q.requestId q.domain rows =
        buildRequestDigest D q'.requestId q'.domain rows' ↔
      q.withoutWindows.Same q'.withoutWindows := by
  constructor
  · intro hdigest
    have hsha := toHex_injective hdigest
    exact same_of_requestDigestInput_eq h h' hX
      (hX _ (List.mem_append_left _ List.mem_cons_self)
        _ (List.mem_append_right _ List.mem_cons_self) hsha)
  · intro hsame
    rw [buildRequestDigest, requestDigestInput_eq_of_same h h' hsame, ← buildRequestDigest]

/-- Requests with the same items in any order are so without windows. -/
theorem ImportRequest.Same.withoutWindows (h : q.Same q') :
    q.withoutWindows.Same q'.withoutWindows :=
  ⟨h.1, h.2.1, h.2.2.map _⟩

/-- **The digest identifies the request exactly when the two requests do not differ in validity
windows alone.** The rows are hashed in the order of their keys, so the order of the items does not
matter; a row holds every field of an item but the two ends of its validity window. Collisions are
excluded for the texts that the two requests hash, and for no others. -/
theorem request_digest_identifies_iff (h : Validated D q b rows)
    (h' : Validated D q' b' rows')
    (hX : NoCollision D (hashedFor D q rows ++ hashedFor D q' rows')) :
    (buildRequestDigest D q.requestId q.domain rows =
        buildRequestDigest D q'.requestId q'.domain rows' ↔ q.Same q') ↔
      ¬(q.withoutWindows.Same q'.withoutWindows ∧ ¬q.Same q') := by
  rw [buildRequestDigest_eq_iff h h' hX]
  constructor
  · rintro hiff ⟨hwithout, hnot⟩
    exact hnot (hiff.mp hwithout)
  · intro hcond
    refine ⟨fun hwithout => ?_, ImportRequest.Same.withoutWindows⟩
    by_contra hnot
    exact hcond ⟨hwithout, hnot⟩

end Request

/-! ### Bench requests -/

/-- The rows of a bench request, if its envelopes are accepted. -/
def benchRows (q : ImportRequest) : List Row :=
  (checkRows Bench.daemonD q.requestId q.domain Bench.binding q.items).toOption.getD []

/-- A request of the bench that passes both checks is validated. -/
private theorem validated_bench {q : ImportRequest}
    (hstruct : validateStructure Bench.daemonD.service q.requestId q.domain q.items = .success)
    (hrows : (checkRows Bench.daemonD q.requestId q.domain Bench.binding
      q.items).toOption.isSome = true) :
    Validated Bench.daemonD q Bench.binding (benchRows q) := by
  refine ⟨hstruct, ?_⟩
  rcases hcheck : checkRows Bench.daemonD q.requestId q.domain Bench.binding q.items with rc | rows
  · rw [hcheck] at hrows
    cases hrows
  · rw [benchRows, hcheck]
    rfl

/-- A request of the bench. -/
def benchRequest : ImportRequest :=
  ⟨"r1", businessDomainV2c, Bench.requestItems "r1" businessDomainV2c 1 0x55⟩

/-- The same request with its items in the other order. -/
def reorderedRequest : ImportRequest := { benchRequest with items := benchRequest.items.reverse }

/-- The same request with a longer validity of its keys. -/
def prolongedRequest : ImportRequest :=
  { benchRequest with items := benchRequest.items.map fun it => { it with validToMs := 2000000 } }

/-- The request of the bench is validated. -/
private theorem validated_benchRequest :
    Validated Bench.daemonD benchRequest Bench.binding (benchRows benchRequest) :=
  validated_bench (by decide +kernel) (by decide +kernel)

/-- So is the request with its items in the other order. -/
private theorem validated_reorderedRequest :
    Validated Bench.daemonD reorderedRequest Bench.binding (benchRows reorderedRequest) :=
  validated_bench (by decide +kernel) (by decide +kernel)

/-- So is the request with a longer window. -/
private theorem validated_prolongedRequest :
    Validated Bench.daemonD prolongedRequest Bench.binding (benchRows prolongedRequest) :=
  validated_bench (by decide +kernel) (by decide +kernel)

/-- Re-sending the items in another order is the same request. -/
theorem request_digest_identifies_iff_bench :
    buildRequestDigest Bench.daemonD benchRequest.requestId benchRequest.domain
        (benchRows benchRequest) =
      buildRequestDigest Bench.daemonD reorderedRequest.requestId reorderedRequest.domain
        (benchRows reorderedRequest) := by
  have hsame : benchRequest.Same reorderedRequest := by decide +kernel
  have hiff := (request_digest_identifies_iff validated_benchRequest validated_reorderedRequest
    (by decide +kernel)).mpr fun h => h.2 hsame
  exact hiff.mpr hsame

/-- A longer validity is another request with the same digest. -/
theorem request_digest_misses_window :
    ¬∀ (q q' : ImportRequest) (b b' : BusinessKeyDeviceBinding) (rows rows' : List Row),
      Validated Bench.daemonD q b rows → Validated Bench.daemonD q' b' rows' →
        NoCollision Bench.daemonD
          (hashedFor Bench.daemonD q rows ++ hashedFor Bench.daemonD q' rows') →
        (buildRequestDigest Bench.daemonD q.requestId q.domain rows =
            buildRequestDigest Bench.daemonD q'.requestId q'.domain rows' ↔ q.Same q') := by
  intro hall
  have hnot : ¬benchRequest.Same prolongedRequest := by decide +kernel
  have hiff := hall benchRequest prolongedRequest Bench.binding Bench.binding _ _
    validated_benchRequest validated_prolongedRequest (by decide +kernel)
  exact hnot (hiff.mp (by decide +kernel))

end TboxSec.Keyprov
