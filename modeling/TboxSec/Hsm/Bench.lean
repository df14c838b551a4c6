import TboxSec.Hsm.Specs
import TboxSec.Keyprov.WrapUnwrap
import TboxSec.Lib.JsonPrint

/-!
# A library for the HSM

The cipher and the curve of the provider's bench, with the printer and the reader of compact JSON
texts. The keys of a metadata document are in order as they stand, so they are printed as they
stand.

A signature is the key, the digest and the random choice behind one another, so that every part of
it can be told from the others. In the environment `calm` nothing fails.

* `library` is the library, and `library_lawful` that it obeys the laws which the results about
  the HSM assume: its documents read back, its cipher opens what it has sealed, its curve is a
  group.
* `calm` is an environment for examples, and `calm_calm` that nothing fails in it.
-/

namespace TboxSec.Hsm.Bench

open Canonical
open JsonPrint (printChars readText readText_printChars)

/-! ### Metadata documents -/

/-- A metadata document is read as it was printed. -/
private theorem readText_metadataJson (keyId : String) (kd : KeyData) :
    readText (printChars (metadataJson keyId kd)) = some (metadataJson keyId kd) := by
  refine readText_printChars (.obj fun kv hkv => ?_)
  simp only [List.mem_cons, List.not_mem_nil, or_false] at hkv
  rcases hkv with rfl | rfl | rfl | rfl
  · exact .str _
  · exact .int _
  · exact .str _
  · exact .str _

/-! ### The library and its environment -/

/-- The code the HSM calls. A signature is the key, the digest and the random choice. -/
def library : Library where
  crypto := Keyprov.Bench.crypto
  curve := Keyprov.Bench.curve
  json :=
    { dump := fun j => String.ofList (printChars j)
      parse := fun text => readText text.toList }
  ecdsaSign k digest entropy := some (bn2bin k ++ digest ++ entropy)

theorem library_crypto : library.crypto = Keyprov.Bench.crypto := rfl

private theorem library_json : library.json =
    ⟨fun j => String.ofList (printChars j), fun text => readText text.toList⟩ := rfl

/-- **The library of the bench is lawful**: the cipher opens what it sealed, and a metadata document
survives its text. -/
theorem library_lawful : library.Lawful := by
  refine ⟨fun key iv plain hiv => ?_, fun key iv plain hiv => ?_, fun keyId kd => ?_⟩
  · rw [library_crypto]
    exact Keyprov.Bench.gcm_lawful.opens key [] iv plain hiv
  · obtain ⟨ciphertext, tag, hsealed, -, htag⟩ :=
      Keyprov.Bench.gcm_lawful.parts key [] iv plain hiv
    rw [library_crypto, hsealed, List.length_append, List.length_append, hiv, htag]
    omega
  · rw [library_json]
    dsimp only
    rw [String.toList_ofList, readText_metadataJson]

/-- An environment in which nothing fails. -/
def calm : Oracle where
  write _ := .ok
  reads := true
  kek := { random := some ⟨List.replicate 32 7, rfl⟩, opens := true, written := 32, crash := false }
  iv := some ⟨List.replicate 12 1, rfl⟩
  scalar := some 5
  now := 1000000000
  entropy := []

theorem calm_calm : calm.Calm where
  reads := rfl
  written := le_rfl
  survives := rfl
  write _ := rfl
  opens := rfl
  random := rfl
  iv := rfl
  scalar := rfl

end TboxSec.Hsm.Bench
