/-
  LandlockCompat.Compat.Abi

  The Landlock ABI registry of `compat.rs`: `ABI::from` maps the version the
  kernel reports to a known ABI, and `ABI::new_current` asks the kernel.

  `ABI::from` reads every non-positive value (an error code) as `Unsupported`
  and every version past the last known one as that one; `ABI::is_known` holds
  exactly of the discriminants of the versioned ABIs.
-/
import LandlockCompat.Uapi
import Mathlib.Order.Basic

namespace Landlock

/-- `ABI`: the Landlock ABI versions the crate knows. -/
inductive ABI where
  | Unsupported
  | V1
  | V2
  | V3
deriving DecidableEq, Repr

namespace ABI

/-- The discriminant, `abi as i32`. -/
def discriminant : ABI → Int
  | Unsupported => 0
  | V1 => 1
  | V2 => 2
  | V3 => 3

/-- `ABI::COUNT`, the number of variants. -/
def COUNT : Int := 4

/-- `ABI::from`: the ABI of a version returned by the kernel. -/
def «from» (value : Int) : ABI :=
  if value ≤ 0 then Unsupported
  else if value = 1 then V1
  else if value = 2 then V2
  else V3

/-- `ABI::is_known`. -/
def isKnown (value : Int) : Bool :=
  value > 0 && value < COUNT

/-- `ABI::new_current`: the ABI of the running kernel, read with
    `landlock_create_ruleset(NULL, 0, LANDLOCK_CREATE_RULESET_VERSION)`. -/
def newCurrent (k : Kernel) : ABI × Kernel :=
  let (r, k) := k.call (.landlockCreateRuleset none 0 LANDLOCK_CREATE_RULESET_VERSION)
  (ABI.from r.ret, k)

/-! ## `ABI::from` -/

/-- Every error code, and zero, reads as `Unsupported`. -/
theorem from_of_nonpos {value : Int} (h : value ≤ 0) : ABI.from value = Unsupported := by
  simp [ABI.from, h]

/-- A positive version is never read as `Unsupported`. -/
theorem from_ne_unsupported {value : Int} (h : 0 < value) : ABI.from value ≠ Unsupported := by
  unfold ABI.from
  split_ifs <;> first | omega | decide

/-- The known versions are exactly the discriminants of the versioned ABIs. -/
theorem isKnown_iff {value : Int} :
    isKnown value = true ↔ ∃ a, a ≠ Unsupported ∧ a.discriminant = value := by
  constructor
  · intro h
    simp only [isKnown, COUNT, Bool.and_eq_true, decide_eq_true_eq] at h
    exact ⟨ABI.from value, from_ne_unsupported h.1, by
      unfold ABI.from; split_ifs <;> simp only [discriminant] <;> omega⟩
  · rintro ⟨a, ha, rfl⟩
    cases a <;> simp_all [isKnown, discriminant, COUNT]

end ABI

end Landlock
