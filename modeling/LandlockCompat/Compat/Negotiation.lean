/-
  LandlockCompat.Compat.Negotiation

  What `try_compat` computes over a whole object tree, said without the tree.

  Every object's `try_compat_inner` is evaluated at its effective level, the
  maximum of the root's parent level and the levels set on the object and its
  ancestors; the evaluations come in children-first (post-)order.  Negotiating
  the tree is negotiating that list: each evaluation merges its verdict into the
  state, and the first one that is not kept ends the negotiation.

  `negotiate_evaluations` proves that `tryCompat` is this list negotiation.  From
  it: the result of `try_compat` is decided by the first evaluation not kept
  (`tryCompat_result`); without `HardRequirement` anywhere it errs only with an
  error some `try_compat_inner` returned (`tryCompat_error_without_hardRequirement`);
  a run of `try_compat` calls threading one state ends in the summary of the
  verdicts of the evaluations it performed (`tryCompatRun_state`), and only ever
  moves the state forward (`tryCompat_state_leadsTo`).

  A `HardRequirement` on the root reaches every evaluation below it, so such an
  object is either returned with every evaluation `Full` or ends in an error,
  never dropped (`tryCompat_hardRequirement`).  The results are stated over the
  level the root is negotiated at (`tryCompat_result_at`, `updateAll_incoming_state`)
  and then for `parent_level.into()`, as `try_compat` receives it.  On a kernel without Landlock the
  state `Compatibility::new()` starts in is `No`, from which no run reaches
  `Full` (`tryCompatRun_without_landlock`).  And relaxing the level never breaks a
  negotiation that succeeded (`tryCompat_relax`).
-/
import LandlockCompat.Compat.TryCompat

namespace Landlock

variable {α E : Type}

/-- One `try_compat_inner` evaluation: the effective level it ran at, and what it returned. -/
structure Evaluation (α E : Type) where
  level : CompatLevel
  result : Except E (CompatResult α E)

namespace Evaluation

/-- The object survives its own evaluation: a full match, or a partial one at `BestEffort`. -/
def kept (e : Evaluation α E) : Bool :=
  match e.result, e.level with
  | .ok (.Full _), _ => true
  | .ok (.Partial _ _), .BestEffort => true
  | _, _ => false

/-- The evaluation ends in an error: an error of `try_compat_inner`, or a partial or
    missing match at `HardRequirement`. -/
def fails (e : Evaluation α E) : Bool :=
  match e.result, e.level with
  | .error _, _ => true
  | .ok (.Partial _ _), .HardRequirement => true
  | .ok (.No _), .HardRequirement => true
  | _, _ => false

/-- What `try_compat` routes after this evaluation. -/
def outcome (e : Evaluation α E) : Except E (Option α) :=
  (routeCompat e.level e.result .Init).1

/-- What `try_compat` merges into the state after this evaluation. -/
def incoming (e : Evaluation α E) : CompatState :=
  (routeCompat e.level e.result .Init).2

/-- `routeCompat` is its outcome and one update by its incoming value. -/
theorem routeCompat_eq (level : CompatLevel) (r : Except E (CompatResult α E))
    (s : CompatState) :
    routeCompat level r s = ((mk level r).outcome, s.update (mk level r).incoming) := by
  rcases r with _ | (_ | _ | _) <;> cases level <;> rfl

theorem incoming_ne_init (e : Evaluation α E) : e.incoming ≠ .Init := by
  rcases e with ⟨level, _ | (_ | _ | _)⟩ <;> cases level <;> simp [incoming, routeCompat]

theorem incoming_of_error {e : Evaluation α E} {x : E} (h : e.outcome = .error x) :
    e.incoming = .Dummy := by
  rcases e with ⟨level, _ | (_ | _ | _)⟩ <;> cases level <;> simp_all [outcome, incoming, routeCompat]

theorem kept_iff (e : Evaluation α E) : e.kept = true ↔ ∃ v, e.outcome = .ok (some v) := by
  rcases e with ⟨level, _ | (_ | _ | _)⟩ <;> cases level <;> simp [kept, outcome, routeCompat]

theorem fails_iff (e : Evaluation α E) : e.fails = true ↔ ∃ x, e.outcome = .error x := by
  rcases e with ⟨level, _ | (_ | _ | _)⟩ <;> cases level <;> simp [fails, outcome, routeCompat]

/-- An evaluation that is not kept routes `None` or an error. -/
theorem outcome_of_not_kept {e : Evaluation α E} (h : e.kept = false) :
    e.outcome = .ok none ∨ ∃ x, e.outcome = .error x := by
  rcases e with ⟨level, _ | (_ | _ | _)⟩ <;> cases level <;> simp_all [kept, outcome, routeCompat]

/-- An evaluation routes an error only when `try_compat_inner` returned it, or at
    `HardRequirement`. -/
theorem outcome_error {e : Evaluation α E} {x : E} (h : e.outcome = .error x) :
    e.result = .error x ∨ e.level = .HardRequirement := by
  rcases e with ⟨level, _ | (_ | _ | _)⟩ <;> cases level <;> simp_all [outcome, routeCompat]

end Evaluation

/-! ## Negotiating a list of evaluations -/

/-- The evaluations performed: up to and including the first one not kept. -/
def performed : List (Evaluation α E) → List (Evaluation α E)
  | [] => []
  | e :: es => if e.kept then e :: performed es else [e]

/-- The first evaluation that is not kept. -/
def firstUnkept (evs : List (Evaluation α E)) : Option (Evaluation α E) :=
  evs.find? (fun e => !e.kept)

/-- Negotiate evaluations in order, merging each verdict into the state, until one
    is not kept: `ok true` when all are kept, as `try_compat_children` reports it. -/
def negotiate : List (Evaluation α E) → CompatState → Except E Bool × CompatState
  | [], s => (.ok true, s)
  | e :: es, s =>
    match e.outcome with
    | .ok (some _) => negotiate es (s.update e.incoming)
    | .ok none => (.ok false, s.update e.incoming)
    | .error x => (.error x, s.update e.incoming)

theorem negotiate_append (xs ys : List (Evaluation α E)) (s : CompatState) :
    negotiate (xs ++ ys) s =
      match negotiate xs s with
      | (.ok true, s') => negotiate ys s'
      | r => r := by
  induction xs generalizing s with
  | nil => rfl
  | cons e es ih =>
    rw [List.cons_append]
    simp only [negotiate]
    rcases e.outcome with x | (_ | v) <;> simp only [ih]

/-- The state after a negotiation is the successive update by the verdicts of the
    evaluations performed. -/
theorem negotiate_state (evs : List (Evaluation α E)) (s : CompatState) :
    (negotiate evs s).2 = CompatState.updateAll s ((performed evs).map Evaluation.incoming) := by
  induction evs generalizing s with
  | nil => rfl
  | cons e es ih =>
    cases hk : e.kept
    · simp only [negotiate, performed, hk]
      rcases Evaluation.outcome_of_not_kept hk with h | ⟨x, h⟩ <;> simp [h]
    · obtain ⟨v, h⟩ := (Evaluation.kept_iff e).1 hk
      simp [negotiate, performed, hk, h, ih]

theorem negotiate_ok_true_iff (evs : List (Evaluation α E)) (s : CompatState) :
    (negotiate evs s).1 = .ok true ↔ ∀ e ∈ evs, e.kept = true := by
  induction evs generalizing s with
  | nil => simp [negotiate]
  | cons e es ih =>
    cases hk : e.kept
    · rcases Evaluation.outcome_of_not_kept hk with h | ⟨x, h⟩ <;> simp [negotiate, h, hk]
    · obtain ⟨v, h⟩ := (Evaluation.kept_iff e).1 hk
      simp [negotiate, h, hk, ih]

/-- The first evaluation not kept decides the negotiation. -/
theorem negotiate_of_firstUnkept {evs : List (Evaluation α E)} {e : Evaluation α E}
    (h : firstUnkept evs = some e) (s : CompatState) :
    (negotiate evs s).1 = e.outcome.map Option.isSome := by
  induction evs generalizing s with
  | nil => simp [firstUnkept] at h
  | cons e' es ih =>
    cases hk : e'.kept
    · have he : e' = e := by simpa [firstUnkept, hk] using h
      subst he
      rcases Evaluation.outcome_of_not_kept hk with h' | ⟨x, h'⟩ <;> simp [negotiate, h', Except.map]
    · obtain ⟨v, h'⟩ := (Evaluation.kept_iff e').1 hk
      simp only [firstUnkept, List.find?_cons, hk, Bool.not_true] at h
      simp [negotiate, h', ih h]

/-- A negotiation that ends in an error leaves the state `Dummy`. -/
theorem negotiate_error_state {evs : List (Evaluation α E)} {s : CompatState} {x : E}
    (h : (negotiate evs s).1 = .error x) : (negotiate evs s).2 = .Dummy := by
  induction evs generalizing s with
  | nil => simp [negotiate] at h
  | cons e es ih =>
    simp only [negotiate] at h ⊢
    split at h <;> simp_all [Evaluation.incoming_of_error]

/-- A negotiation ends in an error that one of its evaluations routed. -/
theorem negotiate_error_mem {evs : List (Evaluation α E)} {s : CompatState} {x : E}
    (h : (negotiate evs s).1 = .error x) : ∃ e ∈ evs, e.outcome = .error x := by
  induction evs generalizing s with
  | nil => simp [negotiate] at h
  | cons e es ih =>
    rcases hout : e.outcome with x' | (_ | v) <;> simp only [negotiate, hout] at h
    · exact ⟨e, List.mem_cons_self _ _, by cases h; exact hout⟩
    · cases h
    · obtain ⟨e', he', h'⟩ := ih h
      exact ⟨e', List.mem_cons_of_mem _ he', h'⟩

/-! ## Evaluations of an object tree -/

/-- The effective level of an object under a root negotiated at `parentLevel`:
    the maximum of `parentLevel` and the levels set along `path`, the object's own
    level first and then its ancestors'. -/
def effectiveLevel (parentLevel : CompatLevel) (path : List (Option CompatLevel)) :
    CompatLevel :=
  (path.filterMap id).foldr max parentLevel

@[simp] theorem effectiveLevel_nil (parentLevel : CompatLevel) :
    effectiveLevel parentLevel [] = parentLevel := rfl

@[simp] theorem effectiveLevel_cons_none (parentLevel : CompatLevel)
    (path : List (Option CompatLevel)) :
    effectiveLevel parentLevel (none :: path) = effectiveLevel parentLevel path := rfl

@[simp] theorem effectiveLevel_cons_some (parentLevel level : CompatLevel)
    (path : List (Option CompatLevel)) :
    effectiveLevel parentLevel (some level :: path) = max level (effectiveLevel parentLevel path) :=
  rfl

/-- Tailoring the effective level of the parent gives the object's effective level. -/
theorem tailoredCompatLevel_effectiveLevel (level : Option CompatLevel)
    (parentLevel : CompatLevel) (path : List (Option CompatLevel)) :
    tailoredCompatLevel level (effectiveLevel parentLevel path) =
      effectiveLevel parentLevel (level :: path) := by
  cases level <;> simp [effectiveLevel, max_comm]

mutual

/-- The `try_compat_inner` evaluations of an object tree, children first, each at
    the object's effective level. -/
def evaluations (abi : ABI) (parentLevel : CompatLevel) (path : List (Option CompatLevel)) :
    CompatNode α E → List (Evaluation α E)
  | .mk level children tryCompatInner =>
    evaluationsChildren abi parentLevel (level :: path) children ++
      [⟨effectiveLevel parentLevel (level :: path), tryCompatInner abi⟩]

/-- The evaluations of a list of sibling trees, in order. -/
def evaluationsChildren (abi : ABI) (parentLevel : CompatLevel)
    (path : List (Option CompatLevel)) : List (CompatNode α E) → List (Evaluation α E)
  | [] => []
  | child :: children =>
    evaluations abi parentLevel path child ++ evaluationsChildren abi parentLevel path children

end

mutual

/-- The levels set on the objects of a tree, in pre-order. -/
def CompatNode.levels : CompatNode α E → List (Option CompatLevel)
  | .mk level children _ => level :: CompatNode.levelsChildren children

/-- The levels set on the objects of a list of sibling trees. -/
def CompatNode.levelsChildren : List (CompatNode α E) → List (Option CompatLevel)
  | [] => []
  | child :: children => child.levels ++ CompatNode.levelsChildren children

end

mutual

/-- `try_compat` negotiates the evaluations of its tree: same state, and `Ok(Some(_))`,
    `Ok(None)` or the error where the negotiation reports `ok true`, `ok false` or it. -/
theorem negotiate_evaluations (abi : ABI) (parentLevel : CompatLevel)
    (path : List (Option CompatLevel)) :
    ∀ (t : CompatNode α E) (s : CompatState),
      negotiate (evaluations abi parentLevel path t) s =
        ((tryCompat abi (effectiveLevel parentLevel path) t s).1.map Option.isSome,
          (tryCompat abi (effectiveLevel parentLevel path) t s).2)
  | .mk level children tryCompatInner, s => by
    rw [evaluations, negotiate_append,
      negotiate_evaluationsChildren abi parentLevel (level :: path) children s]
    simp only [tryCompat, tailoredCompatLevel_idem]
    rw [tailoredCompatLevel_effectiveLevel]
    rcases tryCompatChildren abi (effectiveLevel parentLevel (level :: path)) children s
      with ⟨x | (_ | _), s'⟩
    · rfl
    · rfl
    · simp only [Evaluation.routeCompat_eq, negotiate]
      rcases Evaluation.outcome ⟨effectiveLevel parentLevel (level :: path), tryCompatInner abi⟩
        with x | (_ | v) <;> rfl

/-- `try_compat_children` negotiates the evaluations of the children. -/
theorem negotiate_evaluationsChildren (abi : ABI) (parentLevel : CompatLevel)
    (path : List (Option CompatLevel)) :
    ∀ (children : List (CompatNode α E)) (s : CompatState),
      negotiate (evaluationsChildren abi parentLevel path children) s =
        tryCompatChildren abi (effectiveLevel parentLevel path) children s
  | [], s => by simp [evaluationsChildren, negotiate, tryCompatChildren]
  | child :: children, s => by
    rw [evaluationsChildren, negotiate_append, negotiate_evaluations abi parentLevel path child s]
    simp only [tryCompatChildren]
    rcases tryCompat abi (effectiveLevel parentLevel path) child s with ⟨x | (_ | _), s'⟩
    · rfl
    · rfl
    · exact negotiate_evaluationsChildren abi parentLevel path children s'

end

/-! ## The result of `try_compat` -/

section MapIsSome

variable {r : Except E (Option α)}

theorem map_isSome_eq_ok_true : r.map Option.isSome = .ok true ↔ ∃ v, r = .ok (some v) := by
  rcases r with x | (_ | v) <;> simp [Except.map]

theorem map_isSome_eq_ok_false : r.map Option.isSome = .ok false ↔ r = .ok none := by
  rcases r with x | (_ | v) <;> simp [Except.map]

theorem map_isSome_eq_error {x : E} : r.map Option.isSome = .error x ↔ r = .error x := by
  rcases r with x | (_ | v) <;> simp [Except.map]

end MapIsSome

/-- `try_compat` on a tree negotiated at `parentLevel` returns `Ok(Some(_))` iff every
    evaluation is kept; otherwise the first evaluation not kept decides: `Err` when it
    fails, `Ok(None)` when it does not; and an `Err` always leaves the state `Dummy`. -/
theorem tryCompat_result_at (abi : ABI) (parentLevel : CompatLevel)
    (t : CompatNode α E) (s : CompatState) :
    ((∃ v, (tryCompat abi parentLevel t s).1 = .ok (some v)) ↔
        ∀ e ∈ evaluations abi parentLevel [] t, e.kept = true) ∧
    (∀ e, firstUnkept (evaluations abi parentLevel [] t) = some e →
        ((∃ x, (tryCompat abi parentLevel t s).1 = .error x) ↔ e.fails = true) ∧
        ((tryCompat abi parentLevel t s).1 = .ok none ↔ e.fails = false)) ∧
    (∀ x, (tryCompat abi parentLevel t s).1 = .error x → (tryCompat abi parentLevel t s).2 = .Dummy) := by
  have hn := negotiate_evaluations abi parentLevel [] t s
  simp only [effectiveLevel_nil] at hn
  refine ⟨?_, fun e he => ?_, fun x hx => ?_⟩
  · rw [← map_isSome_eq_ok_true, ← negotiate_ok_true_iff _ s, hn]
  · have hfirst := negotiate_of_firstUnkept he s
    rw [hn] at hfirst
    have hk : e.kept = false := by
      simpa [firstUnkept] using List.find?_some he
    rcases Evaluation.outcome_of_not_kept hk with h | ⟨y, h⟩
    · have hf : e.fails = false := Bool.eq_false_iff.2 fun hfe => by
        obtain ⟨y, hy⟩ := (Evaluation.fails_iff e).1 hfe
        simp [h] at hy
      have hr := map_isSome_eq_ok_false.1 (by simpa [h, Except.map] using hfirst)
      simp [hr, hf]
    · have hr := map_isSome_eq_error.1 (by simpa [h, Except.map] using hfirst)
      simp [hr, (Evaluation.fails_iff e).2 ⟨y, h⟩]
  · have he := congrArg Prod.fst hn
    rw [hx] at he
    rw [← congrArg Prod.snd hn]
    exact negotiate_error_state he

/-- `tryCompat_result_at` for the root as `try_compat` receives it: its parent level is
    `parent_level.into()`, `BestEffort` when there is none. -/
theorem tryCompat_result (abi : ABI) (parentLevel : Option CompatLevel)
    (t : CompatNode α E) (s : CompatState) :
    ((∃ v, (tryCompat abi (.from parentLevel) t s).1 = .ok (some v)) ↔
        ∀ e ∈ evaluations abi (.from parentLevel) [] t, e.kept = true) ∧
    (∀ e, firstUnkept (evaluations abi (.from parentLevel) [] t) = some e →
        ((∃ x, (tryCompat abi (.from parentLevel) t s).1 = .error x) ↔ e.fails = true) ∧
        ((tryCompat abi (.from parentLevel) t s).1 = .ok none ↔ e.fails = false)) ∧
    (∀ x, (tryCompat abi (.from parentLevel) t s).1 = .error x →
        (tryCompat abi (.from parentLevel) t s).2 = .Dummy) := by
  cases parentLevel with
  | none => simpa only [CompatLevel.from_none] using tryCompat_result_at abi .BestEffort t s
  | some level => simpa only [CompatLevel.from_some] using tryCompat_result_at abi level t s

/-! ## Without `HardRequirement` -/

/-- The effective level is below `HardRequirement` while no level on the path is it. -/
theorem effectiveLevel_ne_hard {parentLevel : CompatLevel} {path : List (Option CompatLevel)}
    (hp : parentLevel ≠ .HardRequirement) (hpath : some .HardRequirement ∉ path) :
    effectiveLevel parentLevel path ≠ .HardRequirement := by
  induction path with
  | nil => exact hp
  | cons level path ih =>
    simp only [List.mem_cons, not_or] at hpath
    cases level with
    | none => simpa using ih hpath.2
    | some level =>
      rw [effectiveLevel_cons_some]
      rcases le_total level (effectiveLevel parentLevel path) with h | h
      · rw [max_eq_right h]
        exact ih hpath.2
      · rw [max_eq_left h]
        exact fun h' => hpath.1 (congrArg some h'.symm)

mutual

/-- No evaluation of a tree without `HardRequirement` runs at `HardRequirement`. -/
theorem evaluations_level_ne_hard (abi : ABI) {parentLevel : CompatLevel}
    (hp : parentLevel ≠ .HardRequirement) :
    ∀ (t : CompatNode α E) (path : List (Option CompatLevel)), some .HardRequirement ∉ path →
      some .HardRequirement ∉ t.levels →
      ∀ e ∈ evaluations abi parentLevel path t, e.level ≠ .HardRequirement
  | .mk level children tryCompatInner, path, hpath, ht, e, he => by
    simp only [CompatNode.levels, List.mem_cons, not_or] at ht
    have hpath' : some .HardRequirement ∉ level :: path := by
      simp only [List.mem_cons, not_or]
      exact ⟨ht.1, hpath⟩
    rw [evaluations, List.mem_append, List.mem_singleton] at he
    rcases he with he | rfl
    · exact evaluationsChildren_level_ne_hard abi hp children (level :: path) hpath' ht.2 e he
    · exact effectiveLevel_ne_hard hp hpath'

theorem evaluationsChildren_level_ne_hard (abi : ABI) {parentLevel : CompatLevel}
    (hp : parentLevel ≠ .HardRequirement) :
    ∀ (children : List (CompatNode α E)) (path : List (Option CompatLevel)),
      some .HardRequirement ∉ path → some .HardRequirement ∉ CompatNode.levelsChildren children →
      ∀ e ∈ evaluationsChildren abi parentLevel path children, e.level ≠ .HardRequirement
  | [], _, _, _, e, he => by simp [evaluationsChildren] at he
  | child :: children, path, hpath, ht, e, he => by
    simp only [CompatNode.levelsChildren, List.mem_append, not_or] at ht
    rw [evaluationsChildren, List.mem_append] at he
    rcases he with he | he
    · exact evaluations_level_ne_hard abi hp child path hpath ht.1 e he
    · exact evaluationsChildren_level_ne_hard abi hp children path hpath ht.2 e he

end

/-- Without `HardRequirement` on the parent level or on any object of the tree,
    `try_compat` returns an error only when some `try_compat_inner` returned it:
    running on a kernel that lacks a feature is never an error by itself. -/
theorem tryCompat_error_without_hardRequirement (abi : ABI) (parentLevel : Option CompatLevel)
    (t : CompatNode α E) (s : CompatState) {x : E}
    (hlevels : some CompatLevel.HardRequirement ∉ parentLevel :: t.levels)
    (h : (tryCompat abi (.from parentLevel) t s).1 = .error x) :
    ∃ e ∈ evaluations abi (.from parentLevel) [] t, e.result = .error x := by
  simp only [List.mem_cons, not_or] at hlevels
  have hp : CompatLevel.from parentLevel ≠ .HardRequirement := by
    cases parentLevel with
    | none => decide
    | some level => exact fun h => hlevels.1 (congrArg some h).symm
  have hn := congrArg Prod.fst (negotiate_evaluations abi (.from parentLevel) [] t s)
  obtain ⟨e, he, hout⟩ := negotiate_error_mem (hn.trans (map_isSome_eq_error.2 h))
  rcases Evaluation.outcome_error hout with hr | hl
  · exact ⟨e, he, hr⟩
  · exact absurd hl (evaluations_level_ne_hard abi hp t [] (List.not_mem_nil _) hlevels.2 e he)

/-- A `SoftRequirement` object whose `try_compat_inner` fails. -/
def softFailingNode : CompatNode Unit Nat := .mk (some .SoftRequirement) [] fun _ => .error 0

/-- `tryCompat_error_without_hardRequirement` for `softFailingNode` under no parent level. -/
theorem tryCompat_error_without_hardRequirement_soft :
    some CompatLevel.HardRequirement ∉ (none : Option CompatLevel) :: softFailingNode.levels ∧
    (tryCompat .V1 (.from none) softFailingNode .Init).1 = .error 0 ∧
    ∃ e ∈ evaluations .V1 (.from none) [] softFailingNode, e.result = .error 0 :=
  have hlevels : some CompatLevel.HardRequirement ∉ (none : Option CompatLevel) ::
      softFailingNode.levels := by
    decide
  have h : (tryCompat .V1 (.from none) softFailingNode .Init).1 = .error 0 := rfl
  ⟨hlevels, h, tryCompat_error_without_hardRequirement _ _ _ _ hlevels h⟩

/-! ## Runs of `try_compat` calls -/

namespace Evaluation

/-- `try_compat_inner` returned `Full`. -/
def ReturnedFull (e : Evaluation α E) : Prop :=
  ∃ v, e.result = .ok (.Full v)

/-- `try_compat_inner` returned `No` at effective level `BestEffort`. -/
def DroppedBestEffort (e : Evaluation α E) : Prop :=
  (∃ x, e.result = .ok (.No x)) ∧ e.level = .BestEffort

/-- `try_compat_inner` returned `Err`, or `Partial` or `No` at effective level
    `SoftRequirement` or `HardRequirement`. -/
def Spoils (e : Evaluation α E) : Prop :=
  (∃ x, e.result = .error x) ∨
    (((∃ v x, e.result = .ok (.Partial v x)) ∨ ∃ x, e.result = .ok (.No x)) ∧
      e.level ≠ .BestEffort)

theorem incoming_eq_full_iff (e : Evaluation α E) : e.incoming = .Full ↔ e.ReturnedFull := by
  rcases e with ⟨level, _ | (_ | _ | _)⟩ <;> cases level <;>
    simp [ReturnedFull, incoming, routeCompat]

theorem incoming_eq_no_iff (e : Evaluation α E) : e.incoming = .No ↔ e.DroppedBestEffort := by
  rcases e with ⟨level, _ | (_ | _ | _)⟩ <;> cases level <;>
    simp [DroppedBestEffort, incoming, routeCompat]

theorem incoming_eq_dummy_iff (e : Evaluation α E) : e.incoming = .Dummy ↔ e.Spoils := by
  rcases e with ⟨level, _ | (_ | _ | _)⟩ <;> cases level <;>
    simp [Spoils, incoming, routeCompat]

end Evaluation

/-- `try_compat` called on each `(parent level, object)` pair in turn, all threading
    one state. -/
def tryCompatRun (abi : ABI) :
    CompatState → List (Option CompatLevel × CompatNode α E) → CompatState
  | s, [] => s
  | s, (parentLevel, t) :: calls =>
    tryCompatRun abi (tryCompat abi (.from parentLevel) t s).2 calls

/-- The `try_compat_inner` evaluations a run performs, in order. -/
def runEvaluations (abi : ABI) (calls : List (Option CompatLevel × CompatNode α E)) :
    List (Evaluation α E) :=
  calls.flatMap fun call => performed (evaluations abi (.from call.1) [] call.2)

/-- A run merges the verdicts of the evaluations it performs, in order. -/
theorem tryCompatRun_eq (abi : ABI) (s : CompatState)
    (calls : List (Option CompatLevel × CompatNode α E)) :
    tryCompatRun abi s calls =
      CompatState.updateAll s ((runEvaluations abi calls).map Evaluation.incoming) := by
  induction calls generalizing s with
  | nil => rfl
  | cons call calls ih =>
    obtain ⟨parentLevel, t⟩ := call
    have hstate := congrArg Prod.snd (negotiate_evaluations abi (.from parentLevel) [] t s)
    rw [negotiate_state] at hstate
    simp only [tryCompatRun, ih, runEvaluations, List.flatMap_cons, List.map_append,
      CompatState.updateAll_append, effectiveLevel_nil] at hstate ⊢
    rw [← hstate]

/-- The state that merging the verdicts of `evs` leaves, started from
    `Compatibility::from(abi)`: `Init` while nothing was evaluated on a kernel with
    Landlock, `Full` when every evaluation returned `Full` there, `Dummy` as soon as
    one evaluation spoils the chain, `No` when every evaluation returned `No` at
    `BestEffort` (or none ran, without Landlock), `Partial` otherwise. -/
theorem updateAll_incoming_state (abi : ABI) (evs : List (Evaluation α E)) :
    let s := CompatState.updateAll (Compatibility.from abi).state (evs.map Evaluation.incoming)
    (s = .Init ↔ abi ≠ .Unsupported ∧ evs = []) ∧
    (s = .Full ↔ abi ≠ .Unsupported ∧ evs ≠ [] ∧ ∀ e ∈ evs, e.ReturnedFull) ∧
    (s = .Dummy ↔ ∃ e ∈ evs, e.Spoils) ∧
    (s = .No ↔ (∀ e ∈ evs, e.DroppedBestEffort) ∧ (evs ≠ [] ∨ abi = .Unsupported)) ∧
    (s = .Partial ↔
      ¬(abi ≠ .Unsupported ∧ evs = []) ∧
      ¬(abi ≠ .Unsupported ∧ evs ≠ [] ∧ ∀ e ∈ evs, e.ReturnedFull) ∧
      ¬(∃ e ∈ evs, e.Spoils) ∧
      ¬((∀ e ∈ evs, e.DroppedBestEffort) ∧ (evs ≠ [] ∨ abi = .Unsupported))) := by
  intro s
  have hs : s = CompatState.summary (Compatibility.from abi).state (evs.map Evaluation.incoming) :=
    CompatState.updateAll_eq_summary _ (by simpa using fun e _ => Evaluation.incoming_ne_init e)
  have h0 : (Compatibility.from abi).state = .Init ∨ (Compatibility.from abi).state = .No := by
    cases abi <;> simp [Compatibility.from]
  have hinit : (Compatibility.from abi).state = .Init ↔ abi ≠ .Unsupported := by
    cases abi <;> simp [Compatibility.from]
  have hno : (Compatibility.from abi).state = .No ↔ abi = .Unsupported := by
    cases abi <;> simp [Compatibility.from]
  obtain ⟨hI, hF, hD, hN⟩ := CompatState.summary_eq_iff h0 (evs.map Evaluation.incoming)
  simp only [← hs, hinit, hno, List.map_eq_nil_iff, ne_eq, List.forall_mem_map,
    Evaluation.incoming_eq_full_iff, Evaluation.incoming_eq_no_iff] at hI hF hN
  simp only [← hs, List.mem_map, Evaluation.incoming_eq_dummy_iff] at hD
  simp only [ne_eq]
  exact ⟨hI, hF, hD, hN, by rw [CompatState.eq_partial_iff, hI, hF, hD, hN]⟩

/-- The state a run of `try_compat` calls ends in, started from
    `Compatibility::from(abi)`: `Init` while nothing was evaluated on a kernel with
    Landlock, `Full` when every evaluation returned `Full` there, `Dummy` as soon as
    one evaluation spoils the chain, `No` when every evaluation returned `No` at
    `BestEffort` (or none ran, without Landlock), `Partial` otherwise. -/
theorem tryCompatRun_state (abi : ABI) (calls : List (Option CompatLevel × CompatNode α E)) :
    let s := tryCompatRun abi (Compatibility.from abi).state calls
    let evs := runEvaluations abi calls
    (s = .Init ↔ abi ≠ .Unsupported ∧ evs = []) ∧
    (s = .Full ↔ abi ≠ .Unsupported ∧ evs ≠ [] ∧ ∀ e ∈ evs, e.ReturnedFull) ∧
    (s = .Dummy ↔ ∃ e ∈ evs, e.Spoils) ∧
    (s = .No ↔ (∀ e ∈ evs, e.DroppedBestEffort) ∧ (evs ≠ [] ∨ abi = .Unsupported)) ∧
    (s = .Partial ↔
      ¬(abi ≠ .Unsupported ∧ evs = []) ∧
      ¬(abi ≠ .Unsupported ∧ evs ≠ [] ∧ ∀ e ∈ evs, e.ReturnedFull) ∧
      ¬(∃ e ∈ evs, e.Spoils) ∧
      ¬((∀ e ∈ evs, e.DroppedBestEffort) ∧ (evs ≠ [] ∨ abi = .Unsupported))) := by
  intro s evs
  rw [show s = _ from tryCompatRun_eq abi _ calls]
  exact updateAll_incoming_state abi evs

/-- `try_compat` only moves the shared state forward, from `Init` to `Full` or `No`,
    then to `Partial`, then to `Dummy`, and so does every run of `try_compat` calls:
    a degraded state is never turned back into `Full`, nor `Dummy` into anything else. -/
theorem tryCompat_state_leadsTo (abi : ABI) (s : CompatState) :
    (∀ (parentLevel : CompatLevel) (t : CompatNode α E),
      s.leadsTo (tryCompat abi parentLevel t s).2 = true) ∧
    ∀ calls : List (Option CompatLevel × CompatNode α E),
      s.leadsTo (tryCompatRun abi s calls) = true := by
  refine ⟨fun parentLevel t => ?_, fun calls => ?_⟩
  · have hs := congrArg Prod.snd (negotiate_evaluations abi parentLevel [] t s)
    rw [negotiate_state, effectiveLevel_nil] at hs
    rw [← hs]
    exact CompatState.leadsTo_updateAll s _
  · rw [tryCompatRun_eq]
    exact CompatState.leadsTo_updateAll s _

/-! ## At `HardRequirement` -/

/-- Below a `HardRequirement` effective level, every effective level is `HardRequirement`. -/
theorem effectiveLevel_cons_of_hard {parentLevel : CompatLevel} {path : List (Option CompatLevel)}
    (h : effectiveLevel parentLevel path = .HardRequirement) (level : Option CompatLevel) :
    effectiveLevel parentLevel (level :: path) = .HardRequirement := by
  rw [← tailoredCompatLevel_effectiveLevel, h]
  exact le_antisymm (CompatLevel.le_hardRequirement _) (le_tailoredCompatLevel level _)

mutual

/-- Every evaluation of a tree whose effective level is `HardRequirement` runs at it. -/
theorem evaluations_level_hard (abi : ABI) (parentLevel : CompatLevel) :
    ∀ (t : CompatNode α E) (path : List (Option CompatLevel)),
      effectiveLevel parentLevel (t.level :: path) = .HardRequirement →
      ∀ e ∈ evaluations abi parentLevel path t, e.level = .HardRequirement
  | .mk level children tryCompatInner, path, hpath, e, he => by
    rw [evaluations, List.mem_append, List.mem_singleton] at he
    rcases he with he | rfl
    · exact evaluationsChildren_level_hard abi parentLevel children (level :: path) hpath e he
    · exact hpath

theorem evaluationsChildren_level_hard (abi : ABI) (parentLevel : CompatLevel) :
    ∀ (children : List (CompatNode α E)) (path : List (Option CompatLevel)),
      effectiveLevel parentLevel path = .HardRequirement →
      ∀ e ∈ evaluationsChildren abi parentLevel path children, e.level = .HardRequirement
  | [], _, _, e, he => by simp [evaluationsChildren] at he
  | child :: children, path, hpath, e, he => by
    rw [evaluationsChildren, List.mem_append] at he
    rcases he with he | he
    · exact evaluations_level_hard abi parentLevel child path
        (effectiveLevel_cons_of_hard hpath child.level) e he
    · exact evaluationsChildren_level_hard abi parentLevel children path hpath e he

end

namespace Evaluation

/-- At `HardRequirement` an evaluation is kept exactly when `try_compat_inner` returned
    `Full`. -/
theorem kept_iff_returnedFull {e : Evaluation α E} (h : e.level = .HardRequirement) :
    e.kept = true ↔ e.ReturnedFull := by
  rcases e with ⟨level, _ | (_ | _ | _)⟩ <;> cases h <;> simp [kept, ReturnedFull]

/-- At `HardRequirement` an evaluation never routes `None`. -/
theorem outcome_ne_ok_none {e : Evaluation α E} (h : e.level = .HardRequirement) :
    e.outcome ≠ .ok none := by
  rcases e with ⟨level, _ | (_ | _ | _)⟩ <;> cases h <;> simp [outcome, routeCompat]

end Evaluation

/-- A negotiation in which no evaluation routes `None` never reports `ok false`. -/
theorem negotiate_ne_ok_false {evs : List (Evaluation α E)}
    (h : ∀ e ∈ evs, e.outcome ≠ .ok none) (s : CompatState) : (negotiate evs s).1 ≠ .ok false := by
  induction evs generalizing s with
  | nil => simp [negotiate]
  | cons e es ih =>
    simp only [List.mem_cons, forall_eq_or_imp] at h
    rcases hout : e.outcome with x | (_ | v)
    · simp [negotiate, hout]
    · exact absurd hout h.1
    · simpa [negotiate, hout] using ih h.2 _

/-- An object negotiated at `HardRequirement`, inherited from its parent or set with
    `set_compatibility`, passes it down: every `try_compat_inner` of its tree is evaluated
    at `HardRequirement`.  So it is never dropped: `try_compat` never returns `Ok(None)`,
    and it returns the object exactly when every evaluation of its tree returned `Full`. -/
theorem tryCompat_hardRequirement (abi : ABI) (parentLevel : Option CompatLevel)
    (t : CompatNode α E) (s : CompatState)
    (hhard : CompatLevel.from parentLevel = .HardRequirement ∨ t.level = some .HardRequirement) :
    (∀ e ∈ evaluations abi (.from parentLevel) [] t, e.level = .HardRequirement) ∧
    (tryCompat abi (.from parentLevel) t s).1 ≠ .ok none ∧
    ((∃ v, (tryCompat abi (.from parentLevel) t s).1 = .ok (some v)) ↔
      ∀ e ∈ evaluations abi (.from parentLevel) [] t, e.ReturnedFull) := by
  have hroot : effectiveLevel (.from parentLevel) [t.level] = .HardRequirement := by
    rcases hhard with h | h
    · have h' : effectiveLevel (.from parentLevel) [] = .HardRequirement := h
      exact effectiveLevel_cons_of_hard h' t.level
    · rw [h, effectiveLevel_cons_some, effectiveLevel_nil]
      exact max_eq_left (CompatLevel.le_hardRequirement _)
  have hlevel := evaluations_level_hard abi _ t [] hroot
  have hn := congrArg Prod.fst (negotiate_evaluations abi (.from parentLevel) [] t s)
  simp only [effectiveLevel_nil] at hn
  refine ⟨hlevel, fun h => ?_, ?_⟩
  · refine negotiate_ne_ok_false (fun e he => Evaluation.outcome_ne_ok_none (hlevel e he)) s ?_
    rw [hn, h]
    rfl
  · rw [← map_isSome_eq_ok_true, ← hn, negotiate_ok_true_iff]
    exact forall₂_congr fun e he => Evaluation.kept_iff_returnedFull (hlevel e he)

/-- A `HardRequirement` object whose `try_compat_inner` matches only partially. -/
def hardPartialNode : CompatNode Unit Nat := .mk (some .HardRequirement) [] fun _ => .ok (.Partial () 0)

/-- `tryCompat_hardRequirement` for `hardPartialNode`, which ends in an error. -/
theorem tryCompat_hardRequirement_partial :
    (CompatLevel.from none = .HardRequirement ∨ hardPartialNode.level = some .HardRequirement) ∧
    (tryCompat .V1 (.from none) hardPartialNode .Init).1 = .error 0 ∧
    (∀ e ∈ evaluations .V1 (.from none) [] hardPartialNode, e.level = .HardRequirement) ∧
    (tryCompat .V1 (.from none) hardPartialNode .Init).1 ≠ .ok none ∧
    ((∃ v, (tryCompat .V1 (.from none) hardPartialNode .Init).1 = .ok (some v)) ↔
      ∀ e ∈ evaluations .V1 (.from none) [] hardPartialNode, e.ReturnedFull) :=
  have hhard : CompatLevel.from none = .HardRequirement ∨
      hardPartialNode.level = some .HardRequirement := .inr rfl
  ⟨hhard, rfl, tryCompat_hardRequirement .V1 none _ .Init hhard⟩

/-! ## Relaxing the level -/

/-- An object routed at a level is routed the same at any looser level. -/
theorem routeCompat_relax {level level' : CompatLevel} (hl : level' ≤ level)
    {r : Except E (CompatResult α E)} {s s' : CompatState} {v : α}
    (h : routeCompat level r s = (.ok (some v), s')) : routeCompat level' r s = (.ok (some v), s') := by
  rcases r with _ | (_ | _ | _) <;> cases level <;> cases level' <;>
    first | exact h | (exfalso; revert hl; decide) | simp [routeCompat] at h

mutual

/-- Relaxing the level never breaks a negotiation that succeeded: when `try_compat`
    returns an object at some parent level, it returns the same object and leaves the
    same state at every looser parent level. -/
theorem tryCompat_relax (abi : ABI) {parentLevel parentLevel' : CompatLevel}
    (hp : parentLevel' ≤ parentLevel) :
    ∀ (t : CompatNode α E) (s s' : CompatState) (v : α),
      tryCompat abi parentLevel t s = (.ok (some v), s') →
      tryCompat abi parentLevel' t s = (.ok (some v), s')
  | .mk level children tryCompatInner, s, s', v, h => by
    have hl := tailoredCompatLevel_mono level hp
    simp only [tryCompat, tailoredCompatLevel_idem] at h ⊢
    rcases hc : tryCompatChildren abi (tailoredCompatLevel level parentLevel) children s with
      ⟨x | (_ | _), s₁⟩ <;> rw [hc] at h
    · cases h
    · cases h
    · rw [tryCompatChildren_relax abi hl children s s₁ hc]
      exact routeCompat_relax hl h

theorem tryCompatChildren_relax (abi : ABI) {compatLevel compatLevel' : CompatLevel}
    (hl : compatLevel' ≤ compatLevel) :
    ∀ (children : List (CompatNode α E)) (s s' : CompatState),
      tryCompatChildren abi compatLevel children s = (.ok true, s') →
      tryCompatChildren abi compatLevel' children s = (.ok true, s')
  | [], _, _, h => h
  | child :: children, s, s', h => by
    simp only [tryCompatChildren] at h ⊢
    rcases hc : tryCompat abi compatLevel child s with ⟨x | (_ | v), s₁⟩ <;> rw [hc] at h
    · cases h
    · cases h
    · rw [tryCompat_relax abi hl child s s₁ v hc]
      exact tryCompatChildren_relax abi hl children s₁ s' h

end

/-- An object, with no level of its own, whose `try_compat_inner` matches fully. -/
def fullNode : CompatNode Unit Nat := .mk none [] fun _ => .ok (.Full ())

/-- `tryCompat_relax` for `fullNode` at `SoftRequirement`, relaxed to `BestEffort`. -/
theorem tryCompat_relax_full :
    CompatLevel.BestEffort ≤ .SoftRequirement ∧
    tryCompat .V1 .SoftRequirement fullNode .Init = (.ok (some ()), .Full) ∧
    tryCompat .V1 .BestEffort fullNode .Init = (.ok (some ()), .Full) :=
  have hp : CompatLevel.BestEffort ≤ .SoftRequirement := by decide
  have h : tryCompat .V1 .SoftRequirement fullNode .Init = (.ok (some ()), .Full) := rfl
  ⟨hp, h, tryCompat_relax .V1 hp _ _ _ _ h⟩

/-! ## On a kernel without Landlock -/

/-- On a kernel without Landlock, no run of `try_compat` calls from the state
    `Compatibility::new()` starts ever reaches `Full`, nor stays `Init`: full
    compatibility is never reported where Landlock cannot enforce anything. -/
theorem tryCompatRun_without_landlock (k : Kernel) (hk : k.NoLandlock)
    (calls : List (Option CompatLevel × CompatNode α E)) :
    tryCompatRun (Compatibility.new k).1.abi (Compatibility.new k).1.state calls ≠ .Full ∧
    tryCompatRun (Compatibility.new k).1.abi (Compatibility.new k).1.state calls ≠ .Init := by
  simp only [(Compatibility.new_without_landlock k hk).1]
  have hno := CompatState.leadsTo_updateAll .No
    ((runEvaluations .Unsupported calls).map Evaluation.incoming)
  rw [← tryCompatRun_eq] at hno
  generalize tryCompatRun .Unsupported .No calls = s at hno ⊢
  cases s <;> simp_all [CompatState.leadsTo]

/-- `Compatibility::new()` on a kernel built without Landlock. -/
def compatibilityWithoutLandlock : Compatibility := (Compatibility.new Kernel.withoutLandlock).1

/-- `tryCompatRun_without_landlock` for `fullNode` on a kernel built without Landlock:
    the state is `Partial`. -/
theorem tryCompatRun_without_landlock_full :
    Kernel.withoutLandlock.NoLandlock ∧
    tryCompatRun compatibilityWithoutLandlock.abi compatibilityWithoutLandlock.state
      [(none, fullNode)] ≠ .Full ∧
    tryCompatRun compatibilityWithoutLandlock.abi compatibilityWithoutLandlock.state
      [(none, fullNode)] ≠ .Init :=
  ⟨Kernel.withoutLandlock_noLandlock,
    tryCompatRun_without_landlock _ Kernel.withoutLandlock_noLandlock _⟩

end Landlock
