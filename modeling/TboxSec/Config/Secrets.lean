import TboxSec.Config.Accepted

/-!
# Secrets in a configuration

The walk for secrets goes down through the values of maps and stops at a sequence. So the checker
finds every secret of a document without sequences, and a document that it accepts may still name
one in the maps of a list.

`production_secretFree_iff`: when a document that is accepted for production has no secret.

`SecretFree` is the meaning: no key of the document, however deep, is the name of a secret. What
the walk reaches are `pathKeys`, the keys on a way through maps alone, and `itemKeys` are the
others. `listed_token_accepted` is a production document with a token in a list.
-/

namespace TboxSec.Config

variable {Y : YamlCpp} {root k : Yaml}

/-- The key is the name of a secret, but for case. -/
def isSecret (k : Yaml) : Bool :=
  match k.text? with
  | some s => toLower s ∈ kForbiddenSecretFields
  | none => false

/-- No key of the tree is the name of a secret. -/
def SecretFree (root : Yaml) : Prop := ∀ k ∈ root.keys, isSecret k = false

private theorem Plain.not_secret (h : Plain Y k) : isSecret k = false := by
  obtain ⟨s, hs, hplain⟩ := h
  cases k with
  | scalar t =>
    obtain rfl := Option.some.inj hs
    exact decide_eq_false hplain
  | null | sequence | map => rfl

private theorem Plain.keys_eq_nil (h : Plain Y k) : k.keys = [] := by
  obtain ⟨s, hs, -⟩ := h
  cases k with
  | null | scalar => rfl
  | sequence | map => exact nomatch hs

/-- In what the walk accepts, the secrets that are left are inside sequences. -/
private theorem secretFree_iff_itemKeys (h : ∀ k ∈ root.pathKeys, Plain Y k) :
    SecretFree root ↔ ∀ k ∈ root.itemKeys, isSecret k = false := by
  have hkeys : ∀ k, k ∈ root.keys ↔ k ∈ root.pathKeys ∨ k ∈ root.itemKeys := fun k =>
    Yaml.mem_keys_iff root fun k hk => (h k hk).keys_eq_nil
  constructor
  · exact fun hfree k hk => hfree k ((hkeys k).mpr (.inr hk))
  · intro hitems k hk
    exact ((hkeys k).mp hk).elim (fun hpath => (h k hpath).not_secret) (hitems k)

/-- **Secrets in production.** Acceptance rules out every secret, unless the document obeys the
other rules, every key on the walk is plain, and a sequence holds a map with a secret. The walk over
the document returns at every node that is no map, so it never enters a sequence; for every other
document the scan is complete. -/
theorem production_secretFree_iff (Y : YamlCpp) (root : Yaml) :
    (Accepted Y root → SecretFree root) ↔
      ¬ (Deployable Y root ∧ (∀ k ∈ root.pathKeys, Plain Y k) ∧
        ∃ k ∈ root.itemKeys, isSecret k = true) := by
  rw [accepted_iff]
  constructor
  · rintro hfree ⟨hdeployable, hplain, k, hk, hsecret⟩
    have hnot := (secretFree_iff_itemKeys hplain).mp (hfree ⟨hdeployable, hplain⟩) k hk
    exact Bool.false_ne_true (hnot.symm.trans hsecret)
  · rintro hnone ⟨hdeployable, hplain⟩
    refine (secretFree_iff_itemKeys hplain).mpr fun k hk => ?_
    by_contra hsecret
    exact hnone ⟨hdeployable, hplain, k, hk, (Bool.not_eq_false _).mp hsecret⟩

namespace Bench

/-- A scalar. -/
def text (s : String) : Yaml := .scalar (textBytes s)

/-- A document with a token in an entry of an allowlist. -/
def listedToken : Yaml :=
  .map
    [(text "key_provisioning", .map [(text "mode", text "hsm")]),
      (text "sec",
        .map [(text "trusted_time",
          .map [(text "peer_allowlist",
            .sequence [.map [(text "service", text "ota"), (text "Token", text "t0k3n")]])])])]

/-- A library that reads no scalar of the document as anything but a text. -/
def yamlCpp : YamlCpp := ⟨false, fun _ => none, fun _ => none⟩

end Bench

open Bench in
/-- A list hides a token from the walk. -/
theorem listed_token_accepted :
    run yamlCpp .production (some listedToken) = some (true, []) ∧ ¬ SecretFree listedToken := by
  constructor
  · rfl
  · intro h
    have hmem : text "Token" ∈ listedToken.keys := by
      simp [listedToken, Yaml.keys, Yaml.keysOfItems, Yaml.keysOfEntries]
    exact absurd (h _ hmem) (by decide +kernel)

end TboxSec.Config
