import SentinelAI.Agents.Graph
import SentinelAI.Support.Tiling
import Mathlib.Algebra.BigOperators.Ring.Finset
import Mathlib.Algebra.Order.Field.Rat
import Mathlib.Order.Interval.Finset.Nat

/-!
# Agents — Forensics

`agents/forensics.py`: the residual of a recompression, block by block, and the EXIF data of an
image.  Means and thresholds are the rational numbers that the floats stand for; reading, encoding
and decoding images is OpenCV's, and reading tags is `exifread`'s.
-/

namespace SentinelAI
open Support

def ELA_QUALITY : Nat := 90
def ELA_BLOCK_SIZE : Nat := 16
def ELA_HIGH_THRESHOLD : ℚ := 95 / 10000
def ELA_MEDIUM_THRESHOLD : ℚ := 85 / 10000

def EDITOR_SOFTWARE_MARKERS : List Str := ["photoshop", "gimp", "paint.net", "affinity"]

/-- An array of shape `(h, w, 3)` of bytes. -/
structure Image where
  h : Nat
  w : Nat
  pixel : Nat → Nat → Fin 3 → UInt8

/-- What the forensics are given by OpenCV and `exifread`. -/
structure ForensicsEnv where
  /-- `cv2.imread` -/
  imread : Str → Option Image
  /-- `cv2.imdecode` of `cv2.imencode` at a quality, or nothing where that fails. -/
  recompress : Image → Nat → Option Image
  /-- The tags of a file by name, each as its text, or the text of what reading them raises. -/
  exifTags : Str → Except Str (List (Str × Str))

/-! ### The residual -/

/-- `cv2.absdiff` -/
def absdiff (a b : Image) : Image where
  h := a.h
  w := a.w
  pixel y x c := max (a.pixel y x c) (b.pixel y x c) - min (a.pixel y x c) (b.pixel y x c)

/-- `diff[rows, cols].mean()`, where `diff` holds the bytes of `residual` divided by 255. -/
def meanOf (residual : Image) (rows cols : Finset Nat) : ℚ :=
  (∑ y ∈ rows, ∑ x ∈ cols, ∑ c : Fin 3, ((residual.pixel y x c).toNat : ℚ) / 255) /
    (rows.card * cols.card * 3)

/-- `start : start + block` of `n` places. -/
def slice (n start : Nat) : Finset Nat := Finset.Ico start (min (start + ELA_BLOCK_SIZE) n)

/-- The corners of the blocks. -/
def blocks (h w : Nat) : List (Nat × Nat) :=
  (rangeStep (h - ELA_BLOCK_SIZE + 1) ELA_BLOCK_SIZE).flatMap fun y =>
    (rangeStep (w - ELA_BLOCK_SIZE + 1) ELA_BLOCK_SIZE).map fun x => (y, x)

def blockMean (residual : Image) (corner : Nat × Nat) : ℚ :=
  meanOf residual (slice residual.h corner.1) (slice residual.w corner.2)

/-- `_ela_score`, on the residual. -/
def maxBlockResidual (residual : Image) : ℚ :=
  match ((blocks residual.h residual.w).map (blockMean residual)).max? with
  | some score => score
  | none => meanOf residual (Finset.range residual.h) (Finset.range residual.w)

variable (env : ForensicsEnv) (U : Ucd)

/-- `_ela_score`, or the text of the `ValueError` that it raises. -/
def elaScore (imagePath : Str) : Except Str ℚ :=
  match env.imread imagePath with
  | none => .error ("could not read image: ".toList ++ imagePath)
  | some original =>
      match env.recompress original ELA_QUALITY with
      | none => .error ("could not re-encode image: ".toList ++ imagePath)
      | some recompressed => .ok (maxBlockResidual (absdiff original recompressed))

/-! ### The EXIF data -/

/-- `_exif_check` -/
def exifCheck (imagePath : Str) : Option Bool × List Str :=
  match env.exifTags imagePath with
  | .error _ | .ok [] => (none, ["no_exif_data"])
  | .ok tags =>
      let software := U.lower ((tags.lookup "Image Software".toList).getD [])
      let edited : List Str :=
        if EDITOR_SOFTWARE_MARKERS.any (· <:+: software) then ["editor_software_detected"] else []
      let mismatched : List Str :=
        match tags.lookup "EXIF DateTimeOriginal".toList, tags.lookup "Image DateTime".toList with
        | some original, some modify =>
            if original ≠ modify then ["create_modify_date_mismatch"] else []
        | _, _ => []
      let flags := edited ++ mismatched
      (some flags.isEmpty, flags)

inductive TamperLikelihood where
  | low
  | medium
  | high
deriving DecidableEq, Repr

def TamperLikelihood.value : TamperLikelihood → Str
  | .low => "low"
  | .medium => "medium"
  | .high => "high"

/-- `_tamper_likelihood` -/
def tamperLikelihood (ela : ℚ) (exifFlags : List Str) : TamperLikelihood :=
  if ela ≥ ELA_HIGH_THRESHOLD ∨ "editor_software_detected".toList ∈ exifFlags then .high
  else if ela ≥ ELA_MEDIUM_THRESHOLD ∨ "create_modify_date_mismatch".toList ∈ exifFlags then .medium
  else .low

structure ForensicsResult where
  elaScore : ℚ
  exifConsistent : Option Bool
  exifFlags : List Str
  tamperLikelihood : TamperLikelihood

/-- `model_dump` -/
def ForensicsResult.dump (r : ForensicsResult) : Json :=
  .obj [("ela_score", .num r.elaScore), ("exif_consistent", .opt .bool r.exifConsistent),
    ("exif_flags", .strs r.exifFlags), ("tamper_likelihood", .str r.tamperLikelihood.value)]

def analyze (imagePath : Str) : Except Str ForensicsResult := do
  let ela ← elaScore env imagePath
  let (exifConsistent, exifFlags) := exifCheck env U imagePath
  return ⟨ela, exifConsistent, exifFlags, tamperLikelihood ela exifFlags⟩

/-- What the pipeline makes of `analyze` is an object. -/
theorem analyze_dump_isNull {imagePath : Str} {result : Json}
    (h : (analyze env U imagePath).map (·.dump) = .ok result) : result.isNull = false := by
  cases ha : analyze env U imagePath with
  | error exc => rw [ha] at h; cases h
  | ok r =>
      rw [ha] at h
      cases h
      rfl

end SentinelAI
