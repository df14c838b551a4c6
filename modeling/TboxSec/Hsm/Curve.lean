import Mathlib.Algebra.Group.Nat.Hom
import Mathlib.Algebra.Module.NatInt
import TboxSec.Canonical.Encoding

/-!
# The curve P-256

What the code takes from OpenSSL's EC functions, as a parameter: the group of points, the base
point, and the conversions between points and bytes. A private key is a number, kept as its
big-endian bytes without leading zeros.

* **Agreement** is scalar multiplication, so that both sides reach the same point is the
  commutation of two multiples.
* `Curve.Lawful` has what OpenSSL documents of the conversions.

`ecdhComputeKey` is the agreement on bytes, as the code calls it, and `ecdhComputeKey_comm` that
the two parties of it come to the same secret.
-/

namespace TboxSec.Hsm

open Canonical

/-- P-256. -/
structure Curve where
  Point : Type
  [group : AddCommGroup Point]
  [decEq : DecidableEq Point]
  /-- The base point. -/
  base : Point
  /-- `EC_POINT_oct2point`; `none` for bytes that are no point of the curve. -/
  oct2point : Bytes → Option Point
  /-- `EC_POINT_point2oct`, uncompressed. -/
  point2oct : Point → Bytes
  /-- The x coordinate, 32 bytes. -/
  affineX : Point → Bytes

attribute [instance] Curve.group Curve.decEq

/-- The conversions: a finite point is 65 bytes, the first one `04`, and is read back. -/
structure Curve.Lawful (C : Curve) : Prop where
  oct2point_point2oct : ∀ P, P ≠ 0 → C.oct2point (C.point2oct P) = some P
  length_point2oct : ∀ P, P ≠ 0 → (C.point2oct P).length = 65
  head_point2oct : ∀ P, P ≠ 0 → (C.point2oct P).head? = some 0x04
  /-- The point at infinity is the single byte `00`. -/
  point2oct_zero : C.point2oct 0 = [0]

/-! ### Numbers and bytes -/

/-- `BN_bin2bn`. -/
def bin2bn (b : Bytes) : ℕ := b.foldl (fun n x => n * 256 + x.toNat) 0

/-- `BN_bn2bin` of a number of at most 32 bytes. -/
def bn2bin (n : ℕ) : Bytes := ((List.range 32).reverse.map (byteAt n)).dropWhile (· = 0)

namespace Curve

variable (C : Curve)

/-- `ECDH_compute_key`: the x coordinate of the common point; infinity is an error. -/
def ecdhComputeKey (scalar : ℕ) (peer : C.Point) : Option Bytes :=
  if scalar • peer = 0 then none else some (C.affineX (scalar • peer))

/-- Both sides of an agreement compute the same bytes. -/
theorem ecdhComputeKey_comm (a b : ℕ) :
    C.ecdhComputeKey a (b • C.base) = C.ecdhComputeKey b (a • C.base) := by
  simp only [ecdhComputeKey, smul_comm a b C.base]

/-- The bytes are a finite point of the curve, `EC_POINT_is_on_curve` included. -/
def onCurve (b : Bytes) : Bool :=
  match C.oct2point b with
  | some P => P ≠ 0
  | none => false

end Curve

end TboxSec.Hsm
