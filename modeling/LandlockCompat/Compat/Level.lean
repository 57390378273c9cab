/-
  LandlockCompat.Compat.Level

  The compatibility levels of `compat.rs` and their inheritance.

  An object's own level is an `Option CompatLevel` (`None` until
  `set_compatibility` is called, and for objects that are not `Compatible`,
  whose `TailoredCompatLevel` is the default one).  `tailored_compat_level`
  takes the most constrained of the parent level and the own level: a child
  can tighten the policy of its ancestors, never loosen it.
-/
import Mathlib.Order.Basic
import Mathlib.Order.Lattice

namespace Landlock

/-- `CompatLevel`, ordered from the most lenient to the strictest. -/
inductive CompatLevel where
  | BestEffort
  | SoftRequirement
  | HardRequirement
deriving DecidableEq, Repr

namespace CompatLevel

/-- The variant's position, which the derived `Ord` compares. -/
def rank : CompatLevel → Nat
  | BestEffort => 0
  | SoftRequirement => 1
  | HardRequirement => 2

instance : LinearOrder CompatLevel :=
  @LinearOrder.lift' _ _ Nat.instLinearOrder rank (by intro a b h; cases a <;> cases b <;> cases h <;> rfl)

/-- `CompatLevel::default()`. -/
def default : CompatLevel := BestEffort

/-- `From<Option<CompatLevel>> for CompatLevel`: an unset level is the default. -/
def «from» : Option CompatLevel → CompatLevel
  | none => default
  | some level => level

@[simp] theorem from_none : CompatLevel.from none = BestEffort := rfl

@[simp] theorem from_some (level : CompatLevel) : CompatLevel.from (some level) = level := rfl

theorem bestEffort_le (level : CompatLevel) : BestEffort ≤ level := by
  cases level <;> decide

theorem le_hardRequirement (level : CompatLevel) : level ≤ HardRequirement := by
  cases level <;> decide

end CompatLevel

/-- `TailoredCompatLevel::tailored_compat_level` of an object whose own level is
    `level`: the parent level, made stricter by the own level when one is set. -/
def tailoredCompatLevel (level : Option CompatLevel) (parentLevel : CompatLevel) :
    CompatLevel :=
  match level with
  | none => parentLevel
  | some level => max parentLevel level

/-- `Compatible::set_compatibility`: the object's own level becomes `level`. -/
def setCompatibility (_ : Option CompatLevel) (level : CompatLevel) : Option CompatLevel :=
  some level

/-- `Compatible::set_best_effort`. -/
def setBestEffort (own : Option CompatLevel) (bestEffort : Bool) : Option CompatLevel :=
  setCompatibility own (if bestEffort then .BestEffort else .HardRequirement)

@[simp] theorem tailoredCompatLevel_none (parentLevel : CompatLevel) :
    tailoredCompatLevel none parentLevel = parentLevel := rfl

@[simp] theorem tailoredCompatLevel_some (level parentLevel : CompatLevel) :
    tailoredCompatLevel (some level) parentLevel = max parentLevel level := rfl

/-- A child never loosens the level it inherits. -/
theorem le_tailoredCompatLevel (level : Option CompatLevel) (parentLevel : CompatLevel) :
    parentLevel ≤ tailoredCompatLevel level parentLevel := by
  cases level <;> simp

/-- A stricter parent level never gives a looser level. -/
theorem tailoredCompatLevel_mono (level : Option CompatLevel) {parentLevel parentLevel' : CompatLevel}
    (h : parentLevel' ≤ parentLevel) :
    tailoredCompatLevel level parentLevel' ≤ tailoredCompatLevel level parentLevel := by
  cases level with
  | none => exact h
  | some level => exact sup_le_sup_right h level

/-- Tailoring twice with the same own level changes nothing: the level an object
    passes to its children is the level it negotiates at. -/
@[simp] theorem tailoredCompatLevel_idem (level : Option CompatLevel) (parentLevel : CompatLevel) :
    tailoredCompatLevel level (tailoredCompatLevel level parentLevel) =
      tailoredCompatLevel level parentLevel := by
  cases level <;> simp

/-- The level after `set_compatibility(level)` is the stricter of `level` and the parent's. -/
theorem tailoredCompatLevel_setCompatibility (own : Option CompatLevel)
    (level parentLevel : CompatLevel) :
    tailoredCompatLevel (setCompatibility own level) parentLevel = max parentLevel level := rfl

end Landlock
