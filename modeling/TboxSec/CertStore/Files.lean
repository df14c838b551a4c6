import Mathlib.Data.Nat.Digits.Defs
import TboxSec.Canonical.Crypto
import TboxSec.Lib.Ascii
import TboxSec.Lib.Json
import TboxSec.Lib.SystemCalls

/-!
# The file primitives of the certificate store

The store keeps `CURRENT` and the directory `generations` under its root, an absolute path.
Below `generations` the code builds paths as texts, also from texts that it read from disk;
a text is resolved as the system resolves it: up to the first zero byte, cut at the slashes,
`.` and `..` as usual. Opening a directory as a file goes well and reading it throws.

`JsonCodec` and `Crypto` are the JSON and the digest library. A thrown exception is `none`.

* `Plain` are the names that lead where they say, and `hops` how a joined path is cut up.
* `readFile` reads, and `makeDirs`, `writeFile` and `writeFileAtomic` are the programs that write;
  each of their system calls may fail or be the last.
-/

namespace TboxSec.CertStore

open Ascii FileSystem

/-- The JSON library: parsing fails on a text that is no document, and writing throws on a
string that is not UTF-8. -/
structure JsonCodec where
  parse : Bytes → Option (Json Bytes)
  dump : Json Bytes → Option Bytes

/-- What the store runs on. -/
structure Platform where
  crypto : Crypto
  json : JsonCodec
  /-- `root_`. -/
  root : Path Bytes

/-- A file system with byte strings for names and files of bytes. -/
abbrev Files := Tree Bytes UInt8

/-! ### Texts -/

/-- `kManifestName`. -/
def kManifestName : Bytes := textBytes "manifest.json"

/-- `kChainFileName`. -/
def kChainFileName : Bytes := textBytes "device_cert_chain.pem"

/-- `kDeviceCertFileName`. -/
def kDeviceCertFileName : Bytes := textBytes "device_cert.json"

/-- The name of the temporary file of `writeFileAtomic`. -/
def tmpName (name : Bytes) : Bytes := name ++ textBytes ".tmp"

/-- The name of a directory in itself. -/
def dot : Bytes := [0x2E]

/-- The name of the directory above. -/
def dotDot : Bytes := [0x2E, 0x2E]

/-- `dirJoin`. -/
def dirJoin (a b : Bytes) : Bytes :=
  if a = [] then b
  else if a.getLast? = some slash then a ++ b
  else a ++ slash :: b

/-- A hexadecimal digit. -/
def hexDigit (x : UInt8) : UInt8 := if x < 10 then 0x30 + x else 0x57 + x

/-- The lower-case hexadecimal text of a byte string. -/
def hexText (b : Bytes) : Bytes :=
  b.flatMap fun (x : UInt8) => [hexDigit (x >>> 4), hexDigit (x &&& 0x0F)]

/-- The decimal text of a number. -/
def decimal (n : ℤ) : Bytes :=
  let digits := if n = 0 then [0x30]
    else (Nat.digits 10 n.natAbs).reverse.map fun d => 0x30 + UInt8.ofNat d
  if n < 0 then 0x2D :: digits else digits

/-- A name that is one step down: neither empty nor a dot name, without a slash or a zero. -/
structure Plain (name : Bytes) : Prop where
  nonempty : name ≠ []
  not_dot : name ≠ dot
  not_dotDot : name ≠ dotDot
  no_slash : slash ∉ name
  no_zero : (0 : UInt8) ∉ name

instance (name : Bytes) : Decidable (Plain name) :=
  decidable_of_iff
    (name ≠ [] ∧ name ≠ dot ∧ name ≠ dotDot ∧ slash ∉ name ∧ (0 : UInt8) ∉ name)
    ⟨fun ⟨h₁, h₂, h₃, h₄, h₅⟩ => ⟨h₁, h₂, h₃, h₄, h₅⟩, fun h => ⟨h.1, h.2, h.3, h.4, h.5⟩⟩

/-! ### Paths -/

/-- One component of a path text. -/
def hop (component : Bytes) : Hop Bytes :=
  if component = [] ∨ component = dot then .stay
  else if component = dotDot then .up
  else .into component

/-- The components of a path text. -/
def hops (text : Bytes) : List (Hop Bytes) :=
  ((text.takeWhile (· ≠ 0)).splitOn slash).map hop

namespace Platform

variable (P : Platform)

/-- `generations_dir_`. -/
def generationsDir : Path Bytes := textBytes "generations" :: P.root

/-- `current_path_`. -/
def currentPath : Path Bytes := textBytes "CURRENT" :: P.root

/-- `sha256Hex`. -/
def sha256Hex (data : Bytes) : Bytes := hexText (P.crypto.sha256 data)

/-! ### Reading -/

/-- `readFile` at a path: nothing if the path leads nowhere. -/
def readNode (v : Option (Node UInt8)) : Option Bytes :=
  match v with
  | none => some []
  | some .dir => none
  | some (.file a _) => some a

/-- `readFile` on a text below `generations_dir_`. -/
def readFile (t : Files) (text : Bytes) : Option Bytes :=
  readNode ((t.walk P.generationsDir (hops text)).bind t.node)

end Platform

/-! ### Writing -/

/-- `makeDirs`. -/
def makeDirs (path : Path Bytes) : Program Bytes UInt8 Bool := do
  mkdirs path
  look fun t => decide (t.node path = some .dir)
where
  /-- A `mkdir` for every prefix, the shortest first; failures are ignored. -/
  mkdirs : Path Bytes → Program Bytes UInt8 Unit
    | [] => pure ()
    | n :: p => do
      mkdirs p
      let _ ← attempt (·.mkdir n p)

/-- `writeFile`. -/
def writeFile (name : Bytes) (dir : Path Bytes) (content : Bytes) :
    Program Bytes UInt8 Bool := do
  if !(← attempt (·.create name dir)) then return false
  if !(← writeAll name dir content) then return false
  attempt (·.fsync name dir)

/-- `writeFileAtomic`. The result of syncing the directory is not looked at. -/
def writeFileAtomic (name : Bytes) (dir : Path Bytes) (content : Bytes) :
    Program Bytes UInt8 Bool := do
  if !(← writeFile (tmpName name) dir content) then return false
  if !(← attempt (·.rename (tmpName name) name dir)) then
    let _ ← attempt (·.remove (tmpName name) dir)
    return false
  let _ ← attempt (·.fsyncDir dir)
  return true

end TboxSec.CertStore
