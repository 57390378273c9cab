/-
  LandlockCompat.Compat.State

  `CompatState`, the accumulator every negotiation step of a build chain is
  merged into, and `Compatibility`, the record that carries it.

  `CompatState::update` is applied once per step, in the order the steps run.
  The source tests it on two hand-written sequences; here the fold of `update`
  over any sequence of the values `try_compat` passes (never `Init`) is given a
  closed form, `summary`, that reads only which values occur.  Order
  independence and insensitivity to repetition follow from it at once.  Each
  update only moves the state forward along `leadsTo` (`Init`, then `Full` or
  `No`, then `Partial`, then `Dummy`).
-/
import LandlockCompat.Compat.Abi
import LandlockCompat.Compat.Level

namespace Landlock

/-- `CompatState`. -/
inductive CompatState where
  /-- Initial undefined state. -/
  | Init
  /-- All requested restrictions are enforced. -/
  | Full
  /-- Some requested restrictions are enforced, following a best-effort approach. -/
  | Partial
  /-- The running system doesn't support Landlock. -/
  | No
  /-- Final unsupported state. -/
  | Dummy
deriving DecidableEq, Repr

namespace CompatState

/-- `CompatState::update`: the state after merging `other` into `self`. -/
def update (self other : CompatState) : CompatState :=
  match self, other with
  | Init, other => other
  | Dummy, _ => Dummy
  | _, Dummy => Dummy
  | No, No => No
  | Full, Full => Full
  | _, _ => Partial

@[simp] theorem init_update (other : CompatState) : Init.update other = other := by
  cases other <;> rfl

@[simp] theorem dummy_update (other : CompatState) : Dummy.update other = Dummy := by
  cases other <;> rfl

@[simp] theorem update_dummy (self : CompatState) : self.update Dummy = Dummy := by
  cases self <;> rfl

/-- `update` applied successively, first element first. -/
def updateAll (s : CompatState) (xs : List CompatState) : CompatState :=
  xs.foldl update s

@[simp] theorem updateAll_nil (s : CompatState) : updateAll s [] = s := rfl

@[simp] theorem updateAll_cons (s x : CompatState) (xs : List CompatState) :
    updateAll s (x :: xs) = updateAll (s.update x) xs := rfl

theorem updateAll_append (s : CompatState) (xs ys : List CompatState) :
    updateAll s (xs ++ ys) = updateAll (updateAll s xs) ys :=
  List.foldl_append _ _ _ _

/-! ## The order the merge moves along -/

/-- `s.leadsTo t`: `t` is `s` or a state the merge can move `s` to: `Init` leads to
    every state, `Full` and `No` to `Partial`, and everything to `Dummy`. -/
def leadsTo : CompatState → CompatState → Bool
  | Init, _ => true
  | Full, Full | Full, Partial | Full, Dummy => true
  | No, No | No, Partial | No, Dummy => true
  | Partial, Partial | Partial, Dummy => true
  | Dummy, Dummy => true
  | _, _ => false

theorem leadsTo_update (s x : CompatState) : s.leadsTo (s.update x) = true := by
  cases s <;> cases x <;> rfl

theorem leadsTo_trans {s t u : CompatState} (hst : s.leadsTo t = true)
    (htu : t.leadsTo u = true) : s.leadsTo u = true := by
  revert hst htu
  cases s <;> cases t <;> cases u <;> decide

/-- Successive updates only move the state forward. -/
theorem leadsTo_updateAll (s : CompatState) (xs : List CompatState) :
    s.leadsTo (updateAll s xs) = true := by
  induction xs generalizing s with
  | nil => cases s <;> rfl
  | cons x xs ih => exact leadsTo_trans (leadsTo_update s x) (ih _)

/-! ## Closed form -/

/-- Where successive updates of `s` by `xs` end: `Dummy` once `Dummy` is met, `s`
    when nothing is merged, `Full` or `No` when every step agrees with `s` (or `s`
    is `Init`), `Partial` otherwise. -/
def summary (s : CompatState) (xs : List CompatState) : CompatState :=
  if s = Dummy ∨ Dummy ∈ xs then Dummy
  else if xs = [] then s
  else if (s = Init ∨ s = Full) ∧ ∀ x ∈ xs, x = Full then Full
  else if (s = Init ∨ s = No) ∧ ∀ x ∈ xs, x = No then No
  else Partial

/-! What one `update` does to each condition the summary tests. -/

theorem update_eq_dummy_iff (s x : CompatState) : s.update x = Dummy ↔ s = Dummy ∨ x = Dummy := by
  cases s <;> cases x <;> decide

theorem update_full_iff {x : CompatState} (hx : x ≠ Init) (s : CompatState) :
    (s.update x = Init ∨ s.update x = Full) ↔ (s = Init ∨ s = Full) ∧ x = Full := by
  revert hx
  cases s <;> cases x <;> decide

theorem update_no_iff {x : CompatState} (hx : x ≠ Init) (s : CompatState) :
    (s.update x = Init ∨ s.update x = No) ↔ (s = Init ∨ s = No) ∧ x = No := by
  revert hx
  cases s <;> cases x <;> decide

/-- One update moves the summary's first argument into the sequence. -/
theorem summary_update {s x : CompatState} (hx : x ≠ Init) (xs : List CompatState) :
    summary (s.update x) xs = summary s (x :: xs) := by
  by_cases he : xs = []
  · subst he
    revert hx
    cases s <;> cases x <;> decide
  · simp only [summary, update_eq_dummy_iff, update_full_iff hx, update_no_iff hx, he,
      List.mem_cons, forall_eq_or_imp, List.cons_ne_nil, ite_false, or_assoc, and_assoc,
      @eq_comm _ Dummy x]

/-- The fold of `update` is its summary, for every sequence free of `Init`. -/
theorem updateAll_eq_summary (s : CompatState) {xs : List CompatState}
    (hxs : ∀ x ∈ xs, x ≠ Init) : updateAll s xs = summary s xs := by
  induction xs generalizing s with
  | nil => cases s <;> rfl
  | cons x xs ih =>
    rw [updateAll_cons, ih _ (fun y hy => hxs y (List.mem_cons_of_mem x hy)),
      summary_update (hxs x (List.mem_cons_self x xs))]

/-- The summary reads only which values occur. -/
theorem summary_congr (s : CompatState) {xs ys : List CompatState}
    (h : ∀ y, y ∈ xs ↔ y ∈ ys) : summary s xs = summary s ys := by
  have hnil : xs = [] ↔ ys = [] := by
    simp only [List.eq_nil_iff_forall_not_mem, h]
  simp only [summary, h, hnil]

/-- Successive updates by the values `try_compat` merges (never `Init`) end in their
    summary, in whatever order they come and however often each one occurs. -/
theorem update_fold_closed_form (s : CompatState) (xs : List CompatState)
    (hxs : ∀ x ∈ xs, x ≠ Init) :
    updateAll s xs = summary s xs ∧
    (∀ ys : List CompatState, ys.Perm xs → updateAll s ys = updateAll s xs) ∧
    (∀ x ∈ xs, ∀ l₁ l₂ : List CompatState, xs = l₁ ++ l₂ →
      updateAll s (l₁ ++ x :: l₂) = updateAll s xs) := by
  refine ⟨updateAll_eq_summary s hxs, fun ys hys => ?_, fun x hx l₁ l₂ hl => ?_⟩
  · rw [updateAll_eq_summary s (fun y hy => hxs y (hys.subset hy)), updateAll_eq_summary s hxs]
    exact summary_congr s fun y => hys.mem_iff
  · have hmem : ∀ y, y ∈ l₁ ++ x :: l₂ ↔ y ∈ xs := by
      intro y
      simp only [hl, List.mem_append, List.mem_cons] at hx ⊢
      constructor
      · rintro (h | rfl | h) <;> simp_all
      · rintro (h | h) <;> simp [h]
    rw [updateAll_eq_summary s (fun y hy => hxs y ((hmem y).1 hy)), updateAll_eq_summary s hxs]
    exact summary_congr s hmem

/-- `update_fold_closed_form` from `Full` through `[Full, No]`. -/
theorem update_fold_closed_form_full_no :
    (∀ x ∈ [Full, No], x ≠ Init) ∧
    (updateAll Full [Full, No] = summary Full [Full, No] ∧
      (∀ ys : List CompatState, ys.Perm [Full, No] →
        updateAll Full ys = updateAll Full [Full, No]) ∧
      (∀ x ∈ [Full, No], ∀ l₁ l₂ : List CompatState, [Full, No] = l₁ ++ l₂ →
        updateAll Full (l₁ ++ x :: l₂) = updateAll Full [Full, No])) :=
  ⟨by decide, update_fold_closed_form Full [Full, No] (by decide)⟩

/-- `Partial` is the state that is none of the others. -/
theorem eq_partial_iff (s : CompatState) :
    s = Partial ↔ ¬s = Init ∧ ¬s = Full ∧ ¬s = Dummy ∧ ¬s = No := by
  cases s <;> decide

theorem summary_of_dummy_mem {s : CompatState} {xs : List CompatState} (h : Dummy ∈ xs) :
    summary s xs = Dummy := by
  simp [summary, h]

theorem summary_of_not_dummy {s : CompatState} {xs : List CompatState} (hs : s ≠ Dummy)
    (h : Dummy ∉ xs) :
    summary s xs = if xs = [] then s
      else if (s = Init ∨ s = Full) ∧ ∀ x ∈ xs, x = Full then Full
      else if (s = Init ∨ s = No) ∧ ∀ x ∈ xs, x = No then No else Partial := by
  simp only [summary, hs, h, or_self, ite_false]

/-- The summary of a chain started in `Init` or `No`, one value at a time. -/
theorem summary_eq_iff {s : CompatState} (hs : s = Init ∨ s = No) (xs : List CompatState) :
    (summary s xs = Init ↔ s = Init ∧ xs = []) ∧
    (summary s xs = Full ↔ s = Init ∧ xs ≠ [] ∧ ∀ x ∈ xs, x = Full) ∧
    (summary s xs = Dummy ↔ Dummy ∈ xs) ∧
    (summary s xs = No ↔ (∀ x ∈ xs, x = No) ∧ (xs ≠ [] ∨ s = No)) := by
  have hsd : s ≠ Dummy := by rcases hs with rfl | rfl <;> decide
  by_cases hd : Dummy ∈ xs
  · have hF : ¬∀ x ∈ xs, x = Full := fun hf => absurd (hf _ hd) (by decide)
    have hN : ¬∀ x ∈ xs, x = No := fun hn => absurd (hn _ hd) (by decide)
    simp [summary_of_dummy_mem hd, hd, hF, hN, List.ne_nil_of_mem hd]
  rw [summary_of_not_dummy hsd hd]
  by_cases he : xs = []
  · subst he
    rcases hs with rfl | rfl <;> simp
  -- A nonempty sequence is not both all `Full` and all `No`.
  have hFN : (∀ x ∈ xs, x = Full) → ¬∀ x ∈ xs, x = No := fun hf hn => by
    obtain ⟨x, hx⟩ := List.exists_mem_of_ne_nil xs he
    exact absurd ((hf x hx).symm.trans (hn x hx)) (by decide)
  by_cases hf : ∀ x ∈ xs, x = Full
  · rcases hs with rfl | rfl <;> simp [he, eq_true hf, eq_false (hFN hf), hd]
  by_cases hn : ∀ x ∈ xs, x = No
  · rcases hs with rfl | rfl <;> simp [he, eq_false hf, eq_true hn, hd]
  · rcases hs with rfl | rfl <;> simp [he, eq_false hf, eq_false hn, hd]

end CompatState

/-- `Compatibility`: the ABI of the running kernel, the level of the object being
    built, and the state of its build chain. -/
structure Compatibility where
  abi : ABI
  level : Option CompatLevel
  state : CompatState
deriving DecidableEq, Repr

namespace Compatibility

/-- `From<ABI> for Compatibility`: a chain starts in `Init`, or in `No` on a kernel
    without Landlock. -/
def «from» (abi : ABI) : Compatibility where
  abi := abi
  level := none
  state := match abi with
    | .Unsupported => .No
    | _ => .Init

/-- `Compatibility::new`: the compatibility of the running kernel. -/
def new (k : Kernel) : Compatibility × Kernel :=
  let (abi, k) := ABI.newCurrent k
  (Compatibility.from abi, k)

/-- On a kernel without Landlock, `Compatibility::new` issues the one version query,
    reads its error as `Unsupported`, not as a failure, and starts the chain in `No`. -/
theorem new_without_landlock (k : Kernel) (hk : k.NoLandlock) :
    (Compatibility.new k).1 = ⟨.Unsupported, none, .No⟩ ∧
    ∃ r, (Compatibility.new k).2.trace =
      (.landlockCreateRuleset none 0 LANDLOCK_CREATE_RULESET_VERSION, r) :: k.trace := by
  have h := (hk k.trace (.landlockCreateRuleset none 0 LANDLOCK_CREATE_RULESET_VERSION) trivial).1
  refine ⟨?_, _, rfl⟩
  simp [Compatibility.new, ABI.newCurrent, Kernel.call, ABI.from_of_nonpos h.le,
    Compatibility.from]

/-- `Compatibility::update`. -/
def update (self : Compatibility) (state : CompatState) : Compatibility :=
  { self with state := self.state.update state }

/-- The initial state is `Init` exactly on a kernel with Landlock, `No` otherwise. -/
theorem from_state (abi : ABI) :
    (Compatibility.from abi).state = if abi = .Unsupported then .No else .Init := by
  cases abi <;> rfl

end Compatibility

end Landlock
