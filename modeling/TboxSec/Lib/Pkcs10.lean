import TboxSec.Lib.Der

/-!
# Certification requests

A reader of certification requests (PKCS#10) and of the values of the extensions that they ask
for. It is strict: every part of a request is one value that is read to its end, and there is
nothing between the parts or behind them.

Object identifiers are kept as their octets.

* `Request` and its parts are what a request says; `decode` reads it from its bytes.
* `eq_tlv_of_decode`: the bytes that the signature is over are kept with the information that was
  read from them, and are the first part of the request.
* `generalNames`, `keyUsage` and `keyPurposes` read the values of the extensions.
-/

namespace TboxSec.Pkcs10

/-- An attribute of a name. -/
structure NameAttribute where
  type : List UInt8
  /-- The kind of string. -/
  tag : UInt8
  value : List UInt8
  deriving DecidableEq

/-- A public key with its algorithm. -/
structure PublicKeyInfo where
  algorithm : List UInt8
  parameters : List UInt8
  key : List UInt8
  deriving DecidableEq

/-- An extension that is asked for. -/
structure Extension where
  oid : List UInt8
  critical : Bool
  value : List UInt8
  deriving DecidableEq

/-- What is signed. -/
structure RequestInfo where
  version : List UInt8
  /-- The parts of the name, each with its attributes. -/
  subject : List (List NameAttribute)
  publicKey : PublicKeyInfo
  extensions : List Extension
  deriving DecidableEq

/-- A request. -/
structure Request where
  info : RequestInfo
  /-- The octets that are signed. -/
  infoDer : List UInt8
  algorithm : List UInt8
  signature : List UInt8
  deriving DecidableEq

/-! ### The parts of a request -/

def nameAttribute : Der → Option NameAttribute
  | .constructed 0x30 [.primitive 0x06 type, .primitive tag value] => some ⟨type, tag, value⟩
  | _ => none

/-- A part of a name is a set of attributes. -/
def relativeName : Der → Option (List NameAttribute)
  | .constructed 0x31 attributes => attributes.mapM nameAttribute
  | _ => none

def name : Der → Option (List (List NameAttribute))
  | .constructed 0x30 parts => parts.mapM relativeName
  | _ => none

/-- The key is a bit string without unused bits. -/
def publicKeyInfo : Der → Option PublicKeyInfo
  | .constructed 0x30
      [.constructed 0x30 [.primitive 0x06 algorithm, .primitive 0x06 parameters],
        .primitive 0x03 (0 :: key)] => some ⟨algorithm, parameters, key⟩
  | _ => none

/-- An extension is critical if it says so. -/
def extension : Der → Option Extension
  | .constructed 0x30 [.primitive 0x06 oid, .primitive 0x04 value] => some ⟨oid, false, value⟩
  | .constructed 0x30 [.primitive 0x06 oid, .primitive 0x01 [0xFF], .primitive 0x04 value] =>
    some ⟨oid, true, value⟩
  | _ => none

/-- `extensionRequest`, 1.2.840.113549.1.9.14. -/
def extensionRequest : List UInt8 := [0x2A, 0x86, 0x48, 0x86, 0xF7, 0x0D, 0x01, 0x09, 0x0E]

/-- The attribute that asks for extensions. -/
def extensions : Der → Option (List Extension)
  | .constructed 0x30 [.primitive 0x06 oid, .constructed 0x31 [.constructed 0x30 extensions]] =>
    if oid = extensionRequest then extensions.mapM extension else none
  | _ => none

def requestInfo : Der → Option RequestInfo
  | .constructed 0x30 [.primitive 0x02 version, subject, key, .constructed 0xA0 [wanted]] => do
    let subject ← name subject
    let publicKey ← publicKeyInfo key
    let extensions ← extensions wanted
    return { version, subject, publicKey, extensions }
  | _ => none

def request : Der → Option Request
  | .constructed 0x30
      [info, .constructed 0x30 [.primitive 0x06 algorithm], .primitive 0x03 (0 :: signature)] =>
    (requestInfo info).map fun i => { info := i, infoDer := info.encode, algorithm, signature }
  | _ => none

/-- Reads a request that fills the input. -/
def decode (input : List UInt8) : Option Request := (Der.parse input).bind request

/-- **What is signed is a part of the request**, and the first one. -/
theorem eq_tlv_of_decode {input : List UInt8} {r : Request} (h : decode input = some r) :
    ∃ rest, input = Der.tlv 0x30 (r.infoDer ++ rest) := by
  obtain ⟨d, hparse, hd⟩ := Option.bind_eq_some_iff.mp h
  obtain ⟨rfl, -⟩ := Der.encode_of_parse hparse
  rw [request.eq_def] at hd
  split at hd
  · obtain ⟨i, -, rfl⟩ := Option.map_eq_some_iff.mp hd
    rw [Der.encode, Der.encodeAll]
    exact ⟨_, rfl⟩
  · exact nomatch hd

/-! ### The values of extensions -/

/-- Alternative names, each with the tag of its kind. -/
def generalNames (value : List UInt8) : Option (List (UInt8 × List UInt8)) :=
  match Der.parse value with
  | some (.constructed 0x30 names) =>
    names.mapM fun
      | .primitive tag content => some (tag, content)
      | .constructed .. => none
  | _ => none

/-- The bits of a key usage and how many of the last octet are unused. -/
def keyUsage (value : List UInt8) : Option (UInt8 × List UInt8) :=
  match Der.parse value with
  | some (.primitive 0x03 (unused :: bits)) => some (unused, bits)
  | _ => none

/-- The purposes of an extended key usage. -/
def keyPurposes (value : List UInt8) : Option (List (List UInt8)) :=
  match Der.parse value with
  | some (.constructed 0x30 purposes) =>
    purposes.mapM fun
      | .primitive 0x06 oid => some oid
      | _ => none
  | _ => none

end TboxSec.Pkcs10
