import TboxSec.Keyprov.Types

/-!
# The texts of the enumerations

An enumeration of the business keys is written as text, and the state of an import as a number
too. Every text and every number is read: what is not known becomes the value of the enumeration
that promises nothing.

* `…ofText_toText`: what is written is read back, for each of the enumerations.
* `importStateFromCode_toCode`: so is the number of an import state, which fits 32 bits.

The other direction does not hold, and is not meant to: texts of a newer version are read too.
-/

namespace TboxSec.Keyprov

/-- `string_to_business_key_state`. -/
def BusinessKeyState.ofText (s : String) : BusinessKeyState :=
  if s = "MISSING" then .missing
  else if s = "STAGED" then .staged
  else if s = "ACTIVE" then .active
  else if s = "INVALID" then .invalid
  else .unknown

/-- `business_key_import_state_to_string`. -/
def BusinessKeyImportState.toText : BusinessKeyImportState → String
  | .requested => "REQUESTED"
  | .staged => "STAGED"
  | .committed => "COMMITTED"
  | .failed => "FAILED"
  | .unknown => "UNKNOWN"
  | .notFound => "NOT_FOUND"

/-- `string_to_business_key_import_state`. -/
def BusinessKeyImportState.ofText (s : String) : BusinessKeyImportState :=
  if s = "REQUESTED" then .requested
  else if s = "STAGED" then .staged
  else if s = "COMMITTED" then .committed
  else if s = "FAILED" then .failed
  else if s = "NOT_FOUND" then .notFound
  else .unknown

/-- The wire value of the state of an import. -/
def BusinessKeyImportState.toCode : BusinessKeyImportState → ℕ
  | .requested => 0
  | .staged => 1
  | .committed => 2
  | .failed => 3
  | .unknown => 4
  | .notFound => 5

/-- `import_state_from_code`. -/
def importStateFromCode : ℕ → BusinessKeyImportState
  | 0 => .requested
  | 1 => .staged
  | 2 => .committed
  | 3 => .failed
  | 4 => .unknown
  | 5 => .notFound
  | _ => .unknown

/-- `string_to_key_envelope_format`. -/
def KeyEnvelopeFormat.ofText (s : String) : KeyEnvelopeFormat :=
  if s = "ECDH_ES_P256_V1" then .ecdhEsP256V1 else .unspecified

/-- `string_to_business_key_import_phase`. -/
def BusinessKeyImportPhase.ofText (s : String) : BusinessKeyImportPhase :=
  if s = "NEW" then .new
  else if s = "VALIDATED" then .validated
  else if s = "PROCESSING" then .processing
  else if s = "UPLINK_STAGED" then .uplinkStaged
  else if s = "BOTH_STAGED" then .bothStaged
  else if s = "COMMITTING" then .committing
  else if s = "SUCCEEDED" then .succeeded
  else if s = "ROLLING_BACK" then .rollingBack
  else if s = "FAILED" then .failed
  else if s = "OUTCOME_UNKNOWN" then .outcomeUnknown
  else if s = "RECOVERING" then .recovering
  else .unknown

/-- The state of a key is read back from its text. -/
@[simp]
theorem BusinessKeyState.ofText_toText (s : BusinessKeyState) : ofText s.toText = s := by
  cases s <;> decide

/-- The state of an import is read back from its text. -/
@[simp]
theorem BusinessKeyImportState.ofText_toText (s : BusinessKeyImportState) :
    ofText s.toText = s := by
  cases s <;> decide

/-- It is read back from its number as well. -/
@[simp]
theorem importStateFromCode_toCode (s : BusinessKeyImportState) :
    importStateFromCode s.toCode = s := by
  cases s <;> rfl

/-- The format of an envelope is read back from its text. -/
@[simp]
theorem KeyEnvelopeFormat.ofText_toText (f : KeyEnvelopeFormat) : ofText f.toText = f := by
  cases f <;> decide

/-- The phase of an operation is read back from its text. -/
@[simp]
theorem BusinessKeyImportPhase.ofText_toText (p : BusinessKeyImportPhase) :
    ofText p.toText = p := by
  cases p <;> decide

/-- The number of an import state fits 32 bits. -/
theorem BusinessKeyImportState.toCode_lt (s : BusinessKeyImportState) : s.toCode < 2 ^ 32 := by
  cases s <;> decide

end TboxSec.Keyprov
