/-
  LandlockCompat.Ruleset.RulesetChain

  The chains an application writes to sandbox itself:
  `RulesetAttr::new()`, `handle_fs` calls, `create()`, then any interleaving of
  `set_no_new_privs` and `add_rule` with rules built by `PathBeneath::new` and
  `allow_access`, and finally `restrict_self()`.

  What the kernel sees of a whole chain, and how the chain's bookkeeping and
  the status of `restrict_self` follow from the kernel's answers, is in
  `LandlockCompat.Ruleset.Trace`.

  Two properties the crate's comments promise fail on such chains.  On a kernel
  without Landlock, `create` records the `ENOSYS`/`EOPNOTSUPP` of
  `landlock_create_ruleset` as a runtime error, so `restrict_self` reports
  `Unrestricted(Some(_))` and its `into_result` is `Err`, although "it is not an
  error to run on a system not supporting Landlock"
  (`restrictSelf_without_landlock`).  And `handle_fs` replaces the handled set
  while `PathBeneath::new` allows every right, and nothing compares the two, so
  `add_rule` can pass the kernel an allowed set outside the handled one, the
  `EINVAL` case the API should exclude (`addRule_exceeds_handled`).
-/
import LandlockCompat.Ruleset.Chain

namespace Landlock

/-- A call on the ruleset after `create()`. -/
inductive RulesetCall where
  | setNoNewPrivs (noNewPrivs : Bool)
  /-- `add_rule(PathBeneath::new(parent).allow_access(a₁)…allow_access(aₘ))`. -/
  | addRule (parent : Int) (allowed : List AccessFs)

/-- `PathBeneath::new(parent).allow_access(a₁)…allow_access(aₘ)`. -/
def pathBeneathChain (parent : Int) (allowed : List AccessFs) : Compat PathBeneath :=
  allowed.foldl Compat.allowAccess (PathBeneath.new parent)

/-- Run one call on the ruleset, against the kernel. -/
def RulesetCall.run : RulesetCall → Compat Ruleset × Kernel → Compat Ruleset × Kernel
  | .setNoNewPrivs noNewPrivs, (c, k) => (c.setNoNewPrivs noNewPrivs, k)
  | .addRule parent allowed, (c, k) => c.addRule (pathBeneathChain parent allowed) k

/-- `RulesetAttr::new().handle_fs(h₁)…handle_fs(hₖ).create()` followed by `calls`. -/
def rulesetChain (handled : List AccessFs) (calls : List RulesetCall) (k : Kernel) :
    Compat Ruleset × Kernel :=
  calls.foldl (fun ck call => call.run ck)
    ((handled.foldl Compat.handleFs RulesetAttr.new).create k)

/-- A chain of calls that each set a field of the build keeps the build's status and
    folds the field updates over its data. -/
theorem build_foldl_updateBuild {T A : Type} (set : A → T → T) (xs : List A) (c : Compat T) :
    (xs.foldl (fun c a => c.updateBuild (set a)) c).build =
      c.build.map fun b => ⟨b.status, xs.foldl (fun d a => set a d) b.data⟩ := by
  induction xs generalizing c with
  | nil => rcases c with ⟨_, _, _ | b⟩ <;> rfl
  | cons a xs ih => simp [ih, Option.map_map, Function.comp_def]

/-- Such a chain keeps the last error. -/
theorem getLastError_foldl_updateBuild {T A : Type} (set : A → T → T) (xs : List A)
    (c : Compat T) : (xs.foldl (fun c a => c.updateBuild (set a)) c).getLastError = c.getLastError := by
  induction xs generalizing c with
  | nil => rfl
  | cons a xs ih => simp [ih]

/-- `RulesetAttr::new().handle_fs(h₁)…handle_fs(hₖ)` is a `Full` build handling `hₖ`,
    or `AccessFs::all()` when `k = 0`. -/
theorem handleFs_foldl_handled (handled : List AccessFs) :
    (handled.foldl Compat.handleFs RulesetAttr.new).build =
      some ⟨.Full, ⟨handled.getLast?.getD AccessFs.all⟩⟩ := by
  have hfold : ∀ x : AccessFs,
      handled.foldl (fun d a => { d with handledFs := a }) (⟨x⟩ : RulesetAttr) =
        ⟨handled.getLast?.getD x⟩ := by
    induction handled with
    | nil => intro x; rfl
    | cons a handled ih => intro x; simp [ih, List.getLast?_cons]
  refine (build_foldl_updateBuild (fun a (d : RulesetAttr) => { d with handledFs := a })
    handled RulesetAttr.new).trans ?_
  simp only [RulesetAttr.new, Compat.new, Option.map_some', hfold]

/-- `PathBeneath::new(parent).allow_access(a₁)…allow_access(aₘ)` is a `Full` rule
    allowing `aₘ`, or `AccessFs::all()` when `m = 0`. -/
theorem pathBeneathChain_allowed (parent : Int) (allowed : List AccessFs) :
    (pathBeneathChain parent allowed).build =
      some ⟨.Full, ⟨⟨(allowed.getLast?.getD AccessFs.all).bits, parent⟩⟩⟩ := by
  have hfold : ∀ x : AccessFs,
      allowed.foldl (fun d a => ⟨{ d.attr with allowedAccess := a.bits }⟩)
        (⟨⟨x.bits, parent⟩⟩ : PathBeneath) = ⟨⟨(allowed.getLast?.getD x).bits, parent⟩⟩ := by
    induction allowed with
    | nil => intro x; rfl
    | cons a allowed ih => intro x; simp [ih, List.getLast?_cons]
  refine (build_foldl_updateBuild
    (fun (a : AccessFs) (d : PathBeneath) => ⟨{ d.attr with allowedAccess := a.bits }⟩)
    allowed (PathBeneath.new parent)).trans ?_
  exact congrArg (fun d => some (CompatBuild.mk CompatStatus.Full d)) (hfold AccessFs.all)

/-! ## On a kernel without Landlock -/

/-- A call on an absent ruleset build records `Fake` and issues no system call. -/
theorem run_of_build_none (call : RulesetCall) {c : Compat Ruleset} (k : Kernel)
    (hc : c.build = none) : call.run (c, k) = (c.setLastCallStatus .Fake, k) := by
  cases call <;> simp [RulesetCall.run, Compat.setNoNewPrivs, Compat.updateBuild, Compat.addRule, hc]

/-- Calls on an absent ruleset build change neither the build, nor the last error,
    nor the kernel. -/
theorem run_foldl_absent (calls : List RulesetCall) (ck : Compat Ruleset × Kernel)
    (hc : ck.1.build = none) :
    (calls.foldl (fun ck call => call.run ck) ck).1.build = none ∧
    (calls.foldl (fun ck call => call.run ck) ck).1.getLastError = ck.1.getLastError := by
  induction calls generalizing ck with
  | nil => exact ⟨hc, rfl⟩
  | cons call calls ih =>
    obtain ⟨c, k⟩ := ck
    rw [List.foldl_cons, run_of_build_none call k hc]
    obtain ⟨h1, h2⟩ := ih (c.setLastCallStatus .Fake, k) (by simpa using hc)
    exact ⟨h1, by simp [h2, LastCall.runtimeError?]⟩

/-- On a kernel without Landlock, every chain ends `Unrestricted` with the error of
    `landlock_create_ruleset`, and `into_result` turns it into `Err`. -/
theorem restrictSelf_without_landlock (handled : List AccessFs) (calls : List RulesetCall)
    (k : Kernel) (hk : k.NoLandlock) :
    ∃ e, (e = ENOSYS ∨ e = EOPNOTSUPP) ∧
      ((rulesetChain handled calls k).1.restrictSelf (rulesetChain handled calls k).2).1 =
        .Unrestricted (some (.Os e)) ∧
      ((rulesetChain handled calls k).1.restrictSelf (rulesetChain handled calls k).2).1.intoResult =
        .error (.Os e) := by
  have hb := handleFs_foldl_handled handled
  obtain ⟨r, hr⟩ : ∃ r, k.respond k.trace (.landlockCreateRuleset
      (some ⟨(handled.getLast?.getD AccessFs.all).bits⟩) 8 0) = r := ⟨_, rfl⟩
  obtain ⟨hneg, herrno⟩ := hk k.trace
    (.landlockCreateRuleset (some ⟨(handled.getLast?.getD AccessFs.all).bits⟩) 8 0) trivial
  rw [hr] at hneg herrno
  have hcreate : ((handled.foldl Compat.handleFs RulesetAttr.new).create k).1 =
      ((handled.foldl Compat.handleFs RulesetAttr.new).merge none).setLastCallStatus
        (.RuntimeError (.Os r.errno)) := by
    simp only [Compat.create, hb, Ruleset.new, Kernel.call, hr]
    rw [if_neg (by omega)]
    rfl
  obtain ⟨habsent, herr⟩ := run_foldl_absent calls
    ((handled.foldl Compat.handleFs RulesetAttr.new).create k) (by simp [hcreate, Compat.merge])
  simp only [rulesetChain]
  refine ⟨r.errno, herrno, ?_, ?_⟩ <;>
    simp [Compat.restrictSelf, habsent, herr, hcreate, RestrictionStatus.intoResult]

/-- `RulesetAttr::new().handle_fs(AccessFs::all()).create()` on a kernel built without
    Landlock, and the kernel after it. -/
def allWithoutLandlock : Compat Ruleset × Kernel :=
  rulesetChain [AccessFs.all] [] Kernel.withoutLandlock

/-- `restrictSelf_without_landlock` for `allWithoutLandlock.restrict_self()`. -/
theorem restrictSelf_without_landlock_all :
    Kernel.withoutLandlock.NoLandlock ∧
    ∃ e, (e = ENOSYS ∨ e = EOPNOTSUPP) ∧
      (allWithoutLandlock.1.restrictSelf allWithoutLandlock.2).1 = .Unrestricted (some (.Os e)) ∧
      (allWithoutLandlock.1.restrictSelf allWithoutLandlock.2).1.intoResult = .error (.Os e) :=
  ⟨Kernel.withoutLandlock_noLandlock,
    restrictSelf_without_landlock [AccessFs.all] [] Kernel.withoutLandlock
      Kernel.withoutLandlock_noLandlock⟩

/-! ## The allowed accesses passed to `landlock_add_rule` -/

/-- `RulesetAttr::new().handle_fs(AccessFs::EXECUTE).create().add_rule(PathBeneath::new(fd))`
    on a kernel with Landlock: the ruleset handles `EXECUTE` only, and the rule
    passed to `landlock_add_rule` allows every access right. -/
theorem addRule_exceeds_handled :
    (rulesetChain [AccessFs.EXECUTE] [.addRule 3 []] Kernel.withLandlock).2.trace =
      [(.landlockAddRule 3 LANDLOCK_RULE_PATH_BENEATH ⟨AccessFs.allBits, 3⟩ 0, ⟨0, 0⟩),
        (.landlockCreateRuleset (some ⟨LANDLOCK_ACCESS_FS_EXECUTE⟩) 8 0, ⟨3, 0⟩)] ∧
    AccessFs.allBits &&& ~~~LANDLOCK_ACCESS_FS_EXECUTE ≠ 0 :=
  ⟨rfl, by decide⟩

end Landlock
