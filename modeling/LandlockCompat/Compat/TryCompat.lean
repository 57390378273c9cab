/-
  LandlockCompat.Compat.TryCompat

  The negotiation protocol of `compat.rs`: `TryCompat::try_compat` tailors the
  object's level, negotiates its children, evaluates the object itself with
  `try_compat_inner`, merges the verdict into the shared `CompatState` and
  either routes the (adjusted) object or an error.

  An object is a `CompatNode`: its own level, its children, and what its
  `try_compat_inner` returns for each ABI once the children are through.
  `try_compat_children` follows the contract stated on the trait's default
  implementation: the object tailors its level once more and passes it, with the
  ABI and the same state, to each child's `try_compat` in turn, stopping at the
  first child that yields `None` or an error.  A leaf has no children and gets
  the default `Ok(Some(self))`.

  The state is threaded explicitly and returned beside the result: it is a
  `&mut CompatState` in the source, so an update made before an error survives it.
-/
import LandlockCompat.Compat.State

namespace Landlock

/-- `CompatResult`: how far `try_compat_inner` matched the request. -/
inductive CompatResult (α E : Type) where
  /-- Fully matches the request. -/
  | Full (value : α)
  /-- Partially matches the request. -/
  | Partial (value : α) (error : E)
  /-- Doesn't match the request. -/
  | No (error : E)
deriving DecidableEq, Repr

/-- An object negotiated by `TryCompat::try_compat`: its own compatibility level
    (`none` when unset, or when the object is not `Compatible`), the children its
    `try_compat_children` negotiates, in order, and its `try_compat_inner`. -/
inductive CompatNode (α E : Type) where
  | mk (level : Option CompatLevel) (children : List (CompatNode α E))
      (tryCompatInner : ABI → Except E (CompatResult α E))

variable {α E : Type}

/-- The level set on the object itself (`as_option_compat_level_mut`). -/
def CompatNode.level : CompatNode α E → Option CompatLevel
  | .mk level _ _ => level

/-- The tail of `TryCompat::try_compat`: update `compat_state` after the object's
    own evaluation and, by the compatibility level, route the compatible object or
    an error. -/
def routeCompat (compatLevel : CompatLevel) :
    Except E (CompatResult α E) → CompatState → Except E (Option α) × CompatState
  | .ok (.Full newSelf), s => (.ok (some newSelf), s.update .Full)
  | .ok (.Partial newSelf error), s =>
    match compatLevel with
    | .BestEffort => (.ok (some newSelf), s.update .Partial)
    | .SoftRequirement => (.ok none, s.update .Dummy)
    | .HardRequirement => (.error error, s.update .Dummy)
  | .ok (.No error), s =>
    match compatLevel with
    | .BestEffort => (.ok none, s.update .No)
    | .SoftRequirement => (.ok none, s.update .Dummy)
    | .HardRequirement => (.error error, s.update .Dummy)
  | .error e, s => (.error e, s.update .Dummy)

mutual

/-- `TryCompat::try_compat`. -/
def tryCompat (abi : ABI) (parentLevel : CompatLevel) :
    CompatNode α E → CompatState → Except E (Option α) × CompatState
  | .mk level children tryCompatInner, compatState =>
    let compatLevel := tailoredCompatLevel level parentLevel
    match tryCompatChildren abi (tailoredCompatLevel level compatLevel) children compatState with
    | (.error e, s) => (.error e, s)
    | (.ok false, s) => (.ok none, s)
    | (.ok true, s) => routeCompat compatLevel (tryCompatInner abi) s

/-- `TryCompat::try_compat_children` per the trait's contract: `ok true` stands for
    `Ok(Some(self))`, the object rebuilt from its compatible children, and
    `ok false` for `Ok(None)`. -/
def tryCompatChildren (abi : ABI) (compatLevel : CompatLevel) :
    List (CompatNode α E) → CompatState → Except E Bool × CompatState
  | [], compatState => (.ok true, compatState)
  | child :: children, compatState =>
    match tryCompat abi compatLevel child compatState with
    | (.error e, s) => (.error e, s)
    | (.ok none, s) => (.ok false, s)
    | (.ok (some _), s) => tryCompatChildren abi compatLevel children s

end

end Landlock
