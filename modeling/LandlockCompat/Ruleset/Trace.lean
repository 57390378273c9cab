/-
  LandlockCompat.Ruleset.Trace

  What a ruleset chain does, said without `Compat`: `landlock_create_ruleset` for
  the handled accesses; if it fails, nothing more, and its error is the chain's;
  else one `landlock_add_rule` per rule on the new ruleset, in the chain's order.
  The ruleset stays `Full` while every rule is accepted, keeps the last
  `no_new_privs` value set, and `get_last_error` reports the last rejected rule.

  `rulesetChain_outcome` says the bookkeeping of `Compat` computes exactly that,
  for every chain and every kernel.  It is one lemma per call (`outcome_run`),
  the law that running two lists of calls is running their concatenation
  (`Outcome.runSpec_append`), and an induction over the calls.

  From it, for `restrict_self` at the end of any chain: it reports
  `FullyRestricted` exactly when the ruleset was created, every later Landlock and
  `prctl` call succeeded, and `landlock_restrict_self` was issued on the created
  ruleset (`rulesetChain_fullyRestricted_iff`); `PartiallyRestricted` exactly when
  `landlock_restrict_self` and `prctl` succeeded after some rule was rejected, with
  the error of the last rejection (`rulesetChain_partiallyRestricted_iff`); its
  `into_result` is `Ok` only when it is `FullyRestricted`, since
  the chain's rules are always built `Full` and every downgrade carries the error
  that caused it (`rulesetChain_intoResult_ok_iff`); and it calls `prctl` exactly
  when the ruleset was created and the last `no_new_privs` value is `true`
  (`rulesetChain_prctl_iff`).
-/
import LandlockCompat.Ruleset.RulesetChain
import Mathlib.Tactic.SplitIfs

namespace Landlock

/-! ## Issuing a sequence of system calls -/

/-- The kernel answering `calls` in order: each call with its answer, and the kernel
    after them. -/
def Kernel.callAll (k : Kernel) : List Syscall → List (Syscall × SysResult) × Kernel
  | [] => ([], k)
  | c :: cs => ((c, (k.call c).1) :: ((k.call c).2.callAll cs).1, ((k.call c).2.callAll cs).2)

namespace Kernel

@[simp] theorem callAll_nil (k : Kernel) : k.callAll [] = ([], k) := rfl

@[simp] theorem callAll_singleton (k : Kernel) (c : Syscall) :
    k.callAll [c] = ([(c, (k.call c).1)], (k.call c).2) := rfl

theorem callAll_append (k : Kernel) (cs ds : List Syscall) :
    k.callAll (cs ++ ds) =
      ((k.callAll cs).1 ++ ((k.callAll cs).2.callAll ds).1, ((k.callAll cs).2.callAll ds).2) := by
  induction cs generalizing k with
  | nil => rfl
  | cons c cs ih => simp [callAll, ih]

/-- The answers are pushed on the trace, most recent first. -/
theorem callAll_trace (k : Kernel) (cs : List Syscall) :
    (k.callAll cs).2.trace = (k.callAll cs).1.reverse ++ k.trace := by
  induction cs generalizing k with
  | nil => rfl
  | cons c cs ih => simp [callAll, ih]

theorem callAll_map_fst (k : Kernel) (cs : List Syscall) :
    (k.callAll cs).1.map Prod.fst = cs := by
  induction cs generalizing k with
  | nil => rfl
  | cons c cs ih => simp [callAll, ih]

end Kernel

/-! ## The chain, said directly -/

/-- The attribute an `add_rule` call passes to `landlock_add_rule`: the rule
    `PathBeneath::new(parent).allow_access(a₁)…allow_access(aₘ)` allows `aₘ`, or
    every right when `m = 0`. -/
def RulesetCall.ruleAttr? : RulesetCall → Option LandlockPathBeneathAttr
  | .setNoNewPrivs _ => none
  | .addRule parent allowed => some ⟨(allowed.getLast?.getD AccessFs.all).bits, parent⟩

/-- The value a `set_no_new_privs` call sets. -/
def RulesetCall.noNewPrivs? : RulesetCall → Option Bool
  | .setNoNewPrivs noNewPrivs => some noNewPrivs
  | .addRule _ _ => none

/-- The `landlock_create_ruleset` call of `create()` after `handle_fs(h₁)…handle_fs(hₖ)`. -/
def createCall (handled : List AccessFs) : Syscall :=
  .landlockCreateRuleset (some ⟨(handled.getLast?.getD AccessFs.all).bits⟩) 8 0

/-- The `landlock_add_rule` calls that `calls` issue on the ruleset `fd`, in order. -/
def addRuleCalls (fd : Int) (calls : List RulesetCall) : List Syscall :=
  (calls.filterMap RulesetCall.ruleAttr?).map fun attr =>
    .landlockAddRule fd LANDLOCK_RULE_PATH_BENEATH attr 0

/-- The error of the last answer that is not `0`. -/
def lastRejection (answers : List (Syscall × SysResult)) : Option Error :=
  (answers.filterMap fun p => if p.2.ret = 0 then none else some (Error.lastOsError p.2)).getLast?

/-- What a chain leaves for `restrict_self`: the build, the error `get_last_error`
    reports, and the kernel. -/
structure Outcome where
  build : Option (CompatBuild Ruleset)
  lastError : Option Error
  kernel : Kernel

namespace Outcome

/-- The outcome of a chain of the model. -/
def «of» (ck : Compat Ruleset × Kernel) : Outcome := ⟨ck.1.build, ck.1.getLastError, ck.2⟩

/-- The calls after `create()`: over an absent build nothing happens; over a present
    one the `add_rule` calls are issued in order on its ruleset, the build keeps its
    status while every rule is accepted and is `Partial` otherwise, `no_new_privs`
    takes the last value set, and the last error is that of the last rejected rule,
    else the one before. -/
def runSpec (o : Outcome) (calls : List RulesetCall) : Outcome :=
  match o.build with
  | none => o
  | some ⟨status, ruleset⟩ =>
    let run := o.kernel.callAll (addRuleCalls ruleset.fd calls)
    ⟨some ⟨if run.1.all (·.2.ret = 0) then status else .Partial,
        ⟨ruleset.fd, (calls.filterMap RulesetCall.noNewPrivs?).getLast?.getD ruleset.noNewPrivs⟩⟩,
      (lastRejection run.1).or o.lastError, run.2⟩

end Outcome

/-- `create()` after the `handle_fs` calls: a `Full` ruleset with `no_new_privs` set
    on the descriptor the kernel returned, or no build and the kernel's error. -/
def createSpec (handled : List AccessFs) (k : Kernel) : Outcome :=
  let (r, k) := k.call (createCall handled)
  if r.ret ≥ 0 then ⟨some ⟨.Full, ⟨r.ret, true⟩⟩, none, k⟩ else ⟨none, some (.lastOsError r), k⟩

/-! ## The law of the direct semantics -/

theorem addRuleCalls_append (fd : Int) (xs ys : List RulesetCall) :
    addRuleCalls fd (xs ++ ys) = addRuleCalls fd xs ++ addRuleCalls fd ys := by
  simp [addRuleCalls]

theorem lastRejection_append (ps qs : List (Syscall × SysResult)) :
    lastRejection (ps ++ qs) = (lastRejection qs).or (lastRejection ps) := by
  simp [lastRejection, List.getLast?_append]

/-- Downgrading when `b` fails what was downgraded when `a` failed is downgrading when
    `a && b` fails. -/
theorem ite_partial_and (a b : Bool) (s : CompatStatus) :
    (if b then (if a then s else .Partial) else .Partial) =
      if (a && b) then s else CompatStatus.Partial := by
  cases a <;> cases b <;> rfl

@[simp] theorem Outcome.runSpec_nil (o : Outcome) : o.runSpec [] = o := by
  rcases o with ⟨_ | ⟨st, fd, n⟩, e, k⟩ <;> simp [runSpec, addRuleCalls, lastRejection]

/-- Running `xs` then `ys` is running `xs ++ ys`. -/
theorem Outcome.runSpec_append (o : Outcome) (xs ys : List RulesetCall) :
    (o.runSpec xs).runSpec ys = o.runSpec (xs ++ ys) := by
  rcases o with ⟨_ | ⟨st, fd, n⟩, e, k⟩
  · rfl
  simp only [runSpec, addRuleCalls_append, Kernel.callAll_append, List.all_append,
    lastRejection_append, Option.or_assoc, List.filterMap_append, List.getLast?_append]
  congr 3
  · exact ite_partial_and _ _ _
  · rcases (ys.filterMap RulesetCall.noNewPrivs?).getLast? <;> rfl

/-! ## The model computes the direct semantics -/

/-- One call of the chain. -/
theorem outcome_run (call : RulesetCall) (ck : Compat Ruleset × Kernel) :
    Outcome.of (call.run ck) = (Outcome.of ck).runSpec [call] := by
  obtain ⟨c, k⟩ := ck
  rcases hb : c.build with _ | ⟨st, fd, n⟩
  · simp [run_of_build_none call k hb, Outcome.of, Outcome.runSpec, hb, LastCall.runtimeError?]
  cases call with
  | setNoNewPrivs n' =>
    simp [RulesetCall.run, Compat.setNoNewPrivs, Outcome.of, Outcome.runSpec, hb, addRuleCalls,
      RulesetCall.ruleAttr?, RulesetCall.noNewPrivs?, lastRejection]
  | addRule parent allowed =>
    simp only [RulesetCall.run, Compat.addRule, hb, pathBeneathChain_allowed, Kernel.call]
    by_cases hr : (k.respond k.trace (.landlockAddRule fd LANDLOCK_RULE_PATH_BENEATH
      ⟨(allowed.getLast?.getD AccessFs.all).bits, parent⟩ 0)).ret = 0 <;>
    simp [Outcome.of, Outcome.runSpec, hb, hr, addRuleCalls, RulesetCall.ruleAttr?,
      RulesetCall.noNewPrivs?, lastRejection, LastCall.from, Kernel.call, Compat.setLastCallStatus,
      Compat.getLastError, PathBeneath.getTypeId, PathBeneath.asPtr, PathBeneath.getFlags]

/-- The calls after `create()`, from any chain. -/
theorem outcome_foldl_run (calls : List RulesetCall) (ck : Compat Ruleset × Kernel) :
    Outcome.of (calls.foldl (fun ck call => call.run ck) ck) = (Outcome.of ck).runSpec calls := by
  induction calls generalizing ck with
  | nil => exact (Outcome.runSpec_nil _).symm
  | cons call calls ih =>
    rw [List.foldl_cons, ih, outcome_run, Outcome.runSpec_append, List.singleton_append]

theorem outcome_create (handled : List AccessFs) (k : Kernel) :
    Outcome.of ((handled.foldl Compat.handleFs RulesetAttr.new).create k) = createSpec handled k := by
  have herr : (handled.foldl Compat.handleFs RulesetAttr.new).getLastError = none :=
    (getLastError_foldl_updateBuild (fun a (d : RulesetAttr) => { d with handledFs := a })
      handled RulesetAttr.new).trans rfl
  simp only [Compat.create, handleFs_foldl_handled, Ruleset.new, Kernel.call, createSpec, createCall]
  split_ifs <;> simp [Outcome.of, herr, LastCall.runtimeError?]

/-- For every chain and every kernel, what `Compat` leaves for `restrict_self` is what
    the direct semantics says. -/
theorem rulesetChain_outcome (handled : List AccessFs) (calls : List RulesetCall) (k : Kernel) :
    Outcome.of (rulesetChain handled calls k) = (createSpec handled k).runSpec calls := by
  rw [rulesetChain, outcome_foldl_run, outcome_create]

/-! ## The chain by the answer of `landlock_create_ruleset` -/

theorem lastRejection_eq_none_iff (ps : List (Syscall × SysResult)) :
    lastRejection ps = none ↔ ∀ p ∈ ps, p.2.ret = 0 := by
  simp [lastRejection, List.filterMap_eq_nil_iff]

/-- The answers to the `add_rule` calls hold no other call. -/
theorem not_mem_of_map_fst {answers : List (Syscall × SysResult)} {fd : Int}
    {calls : List RulesetCall} (h : answers.map Prod.fst = addRuleCalls fd calls) (sc : Syscall)
    (hsc : ∀ attr, sc ≠ .landlockAddRule fd LANDLOCK_RULE_PATH_BENEATH attr 0) (q : SysResult) :
    (sc, q) ∉ answers := fun hm => by
  have h' := List.mem_map_of_mem Prod.fst hm
  simp only [h, addRuleCalls, List.mem_map, List.mem_filterMap] at h'
  obtain ⟨attr, -, h'⟩ := h'
  exact hsc attr h'.symm

/-- When `landlock_create_ruleset` fails, the chain has no build, its error, and issued
    nothing more. -/
theorem rulesetChain_of_create_error (handled : List AccessFs) (calls : List RulesetCall)
    (k : Kernel) (hr : (k.respond k.trace (createCall handled)).ret < 0) :
    (rulesetChain handled calls k).1.build = none ∧
    (rulesetChain handled calls k).1.getLastError =
      some (.lastOsError (k.respond k.trace (createCall handled))) ∧
    (rulesetChain handled calls k).2 = (k.call (createCall handled)).2 := by
  have ho : Outcome.of (rulesetChain handled calls k) = (createSpec handled k).runSpec calls := by
    rw [rulesetChain, outcome_foldl_run, outcome_create]
  simpa only [Outcome.of, createSpec, Kernel.call, ge_iff_le, Int.not_le.2 hr, ite_false,
    Outcome.runSpec, Outcome.mk.injEq] using ho

/-- When `landlock_create_ruleset` returns a descriptor, the chain's build is on it, and
    the chain answered one `landlock_add_rule` per rule after it: the build is `Full`
    exactly when every answer is `0`, and the last error is the last rejection. -/
theorem rulesetChain_of_create_ok (handled : List AccessFs) (calls : List RulesetCall)
    (k : Kernel) (hr : 0 ≤ (k.respond k.trace (createCall handled)).ret) :
    ∃ answers : List (Syscall × SysResult),
      answers.map Prod.fst = addRuleCalls (k.respond k.trace (createCall handled)).ret calls ∧
      (rulesetChain handled calls k).1.build = some
        ⟨if answers.all (·.2.ret = 0) then .Full else .Partial,
          ⟨(k.respond k.trace (createCall handled)).ret,
            (calls.filterMap RulesetCall.noNewPrivs?).getLast?.getD true⟩⟩ ∧
      (rulesetChain handled calls k).1.getLastError = lastRejection answers ∧
      (rulesetChain handled calls k).2.trace =
        answers.reverse ++ (createCall handled, k.respond k.trace (createCall handled)) :: k.trace := by
  have ho : Outcome.of (rulesetChain handled calls k) = (createSpec handled k).runSpec calls := by
    rw [rulesetChain, outcome_foldl_run, outcome_create]
  simp only [Outcome.of, createSpec, Kernel.call, ge_iff_le, hr, ite_true, Outcome.runSpec,
    Option.or_none, Outcome.mk.injEq] at ho
  obtain ⟨hb, herr, hk⟩ := ho
  exact ⟨_, Kernel.callAll_map_fst _ _, hb, herr, by rw [hk, Kernel.callAll_trace]⟩

/-! ## `restrict_self` at the end of a chain -/

/-- For every chain and every kernel, `restrict_self` at its end reports `FullyRestricted`
    exactly when `landlock_create_ruleset` returned a descriptor, every Landlock and
    `prctl` call issued after it succeeded, and `landlock_restrict_self` was issued on
    that descriptor. -/
theorem rulesetChain_fullyRestricted_iff (handled : List AccessFs) (calls : List RulesetCall)
    (k : Kernel) :
    ∃ issued, ((rulesetChain handled calls k).1.restrictSelf (rulesetChain handled calls k).2).2.trace =
        issued ++ (createCall handled, k.respond k.trace (createCall handled)) :: k.trace ∧
      (((rulesetChain handled calls k).1.restrictSelf (rulesetChain handled calls k).2).1 =
          .FullyRestricted ↔
        0 ≤ (k.respond k.trace (createCall handled)).ret ∧ (∀ p ∈ issued, p.2.ret = 0) ∧
        ∃ q, (Syscall.landlockRestrictSelf (k.respond k.trace (createCall handled)).ret 0, q) ∈ issued) := by
  by_cases hr : 0 ≤ (k.respond k.trace (createCall handled)).ret
  · obtain ⟨answers, hmap, hb, -, hk⟩ := rulesetChain_of_create_ok handled calls k hr
    obtain ⟨issued, htrace, -, -, hiff, -⟩ :=
      Compat.restrictSelf_issued (rulesetChain handled calls k).2 hb
    refine ⟨issued ++ answers.reverse, by rw [htrace, hk, List.append_assoc], ?_⟩
    rw [hiff]
    simp only [hr, true_and, List.mem_append, List.mem_reverse, or_imp, forall_and, exists_or,
      not_mem_of_map_fst hmap (.landlockRestrictSelf _ 0) (by simp), exists_false, or_false,
      ite_eq_left_iff, reduceCtorEq, imp_false, Classical.not_not, List.all_eq_true, decide_eq_true_eq]
    exact ⟨fun ⟨a, b, c⟩ => ⟨⟨b, a⟩, c⟩, fun ⟨⟨b, a⟩, c⟩ => ⟨a, b, c⟩⟩
  · obtain ⟨hb, -, hk⟩ := rulesetChain_of_create_error handled calls k (by omega)
    exact ⟨[], by simp [Compat.restrictSelf, hb, hk], by simp [Compat.restrictSelf, hb, hr]⟩

/-- For every chain and every kernel, `restrict_self` at its end reports
    `PartiallyRestricted err` exactly when `landlock_create_ruleset` returned a
    descriptor, `landlock_restrict_self` on it and `prctl` (when issued) succeeded, and
    some call before them failed, which is then a `landlock_add_rule`: the ruleset is
    enforced without the rules the kernel rejected, and `err` is the error of the last
    rejection. -/
theorem rulesetChain_partiallyRestricted_iff (handled : List AccessFs) (calls : List RulesetCall)
    (k : Kernel) :
    ∃ issued, ((rulesetChain handled calls k).1.restrictSelf (rulesetChain handled calls k).2).2.trace =
        issued ++ (createCall handled, k.respond k.trace (createCall handled)) :: k.trace ∧
      ∀ err, ((rulesetChain handled calls k).1.restrictSelf (rulesetChain handled calls k).2).1 =
          .PartiallyRestricted err ↔
        0 ≤ (k.respond k.trace (createCall handled)).ret ∧
        (∃ q, (Syscall.landlockRestrictSelf (k.respond k.trace (createCall handled)).ret 0, q) ∈
          issued) ∧
        (∀ p ∈ issued, p.1 = .prctl PR_SET_NO_NEW_PRIVS 1 0 0 0 ∨
          p.1 = .landlockRestrictSelf (k.respond k.trace (createCall handled)).ret 0 → p.2.ret = 0) ∧
        (∃ p ∈ issued, p.2.ret ≠ 0) ∧ err = lastRejection issued.reverse := by
  by_cases hr : 0 ≤ (k.respond k.trace (createCall handled)).ret
  · obtain ⟨answers, hmap, hb, herr, hk⟩ := rulesetChain_of_create_ok handled calls k hr
    obtain ⟨issued, htrace, hkind, -, -, hpart⟩ :=
      Compat.restrictSelf_issued (rulesetChain handled calls k).2 hb
    refine ⟨issued ++ answers.reverse, by rw [htrace, hk, List.append_assoc], fun err => ?_⟩
    -- The answers are to `landlock_add_rule` calls: neither `prctl` nor `landlock_restrict_self`.
    have hans : ∀ p ∈ answers, p.1 ≠ .prctl PR_SET_NO_NEW_PRIVS 1 0 0 0 ∧
        p.1 ≠ .landlockRestrictSelf (k.respond k.trace (createCall handled)).ret 0 := by
      rintro ⟨sc, q⟩ hp
      dsimp only
      constructor <;> rintro rfl <;> exact not_mem_of_map_fst hmap _ (by simp) q hp
    have hstatus : (if answers.all (·.2.ret = 0) then CompatStatus.Full else .Partial) = .Partial ↔
        ∃ p ∈ answers, p.2.ret ≠ 0 := by
      cases h : answers.all (·.2.ret = 0) <;> simpa using h
    have hlast : (∀ p ∈ issued, p.2.ret = 0) →
        lastRejection answers = lastRejection (issued ++ answers.reverse).reverse := fun hok => by
      rw [List.reverse_append, List.reverse_reverse, lastRejection_append,
        (lastRejection_eq_none_iff issued.reverse).2 (by simpa using hok), Option.none_or]
    rw [hpart err, herr]
    constructor
    · rintro ⟨hst, hok, ⟨q, hq⟩, rfl⟩
      obtain ⟨p, hp, hne⟩ := hstatus.1 hst
      refine ⟨hr, ⟨q, List.mem_append_left _ hq⟩, fun p' hp' hkind' => ?_,
        ⟨p, List.mem_append_right _ (List.mem_reverse.2 hp), hne⟩, hlast hok⟩
      rcases List.mem_append.1 hp' with hp' | hp'
      · exact hok p' hp'
      · have h' := hans p' (List.mem_reverse.1 hp')
        exact (hkind'.elim h'.1 h'.2).elim
    · rintro ⟨-, ⟨q, hq⟩, hPR, ⟨p, hp, hne⟩, rfl⟩
      have hok : ∀ p ∈ issued, p.2.ret = 0 := fun p hp =>
        hPR p (List.mem_append_left _ hp) (hkind p hp)
      have hRi := (List.mem_append.1 hq).resolve_right fun h =>
        (hans _ (List.mem_reverse.1 h)).2 rfl
      have hpa := List.mem_reverse.1 ((List.mem_append.1 hp).resolve_left fun h => hne (hok p h))
      exact ⟨hstatus.2 ⟨p, hpa, hne⟩, hok, ⟨q, hRi⟩, hlast hok⟩
  · obtain ⟨hb, -, hk⟩ := rulesetChain_of_create_error handled calls k (by omega)
    exact ⟨[], by simp [Compat.restrictSelf, hb, hk], fun err => by simp [Compat.restrictSelf, hb, hr]⟩

/-- For every chain and every kernel, `into_result` of what `restrict_self` reports at its
    end is `Ok` exactly when it is `FullyRestricted`: the chain's rules are always built
    `Full`, so a ruleset enforced partially, or not at all, always carries an error. -/
theorem rulesetChain_intoResult_ok_iff (handled : List AccessFs) (calls : List RulesetCall)
    (k : Kernel) :
    ((rulesetChain handled calls k).1.restrictSelf (rulesetChain handled calls k).2).1.intoResult =
        .ok () ↔
      ((rulesetChain handled calls k).1.restrictSelf (rulesetChain handled calls k).2).1 =
        .FullyRestricted := by
  by_cases hr : 0 ≤ (k.respond k.trace (createCall handled)).ret
  · obtain ⟨answers, -, hb, herr, -⟩ := rulesetChain_of_create_ok handled calls k hr
    rcases Compat.restrictSelf_cases (rulesetChain handled calls k).2 hb with h | ⟨h, hst⟩ | ⟨e, h⟩
    · simp [h, RestrictionStatus.intoResult]
    · obtain ⟨e, he⟩ := Option.ne_none_iff_exists'.1 fun hn : lastRejection answers = none => by
        have hall : answers.all (·.2.ret = 0) = true :=
          List.all_eq_true.2 fun p hp => decide_eq_true ((lastRejection_eq_none_iff _).1 hn p hp)
        simp [hall] at hst
      simp [h, herr, he, RestrictionStatus.intoResult]
    · simp [h, RestrictionStatus.intoResult]
  · obtain ⟨hb, herr, -⟩ := rulesetChain_of_create_error handled calls k (by omega)
    simp [Compat.restrictSelf, hb, herr, RestrictionStatus.intoResult]

/-- For every chain and every kernel, `prctl(PR_SET_NO_NEW_PRIVS, 1, 0, 0, 0)` is issued
    after `landlock_create_ruleset` exactly when the ruleset was created and the last value
    `set_no_new_privs` set, `true` when it was never called, is `true`. -/
theorem rulesetChain_prctl_iff (handled : List AccessFs) (calls : List RulesetCall) (k : Kernel) :
    ∃ issued, ((rulesetChain handled calls k).1.restrictSelf (rulesetChain handled calls k).2).2.trace =
        issued ++ (createCall handled, k.respond k.trace (createCall handled)) :: k.trace ∧
      ((∃ q, (Syscall.prctl PR_SET_NO_NEW_PRIVS 1 0 0 0, q) ∈ issued) ↔
        0 ≤ (k.respond k.trace (createCall handled)).ret ∧
          (calls.filterMap RulesetCall.noNewPrivs?).getLast?.getD true = true) := by
  by_cases hr : 0 ≤ (k.respond k.trace (createCall handled)).ret
  · obtain ⟨answers, hmap, hb, -, hk⟩ := rulesetChain_of_create_ok handled calls k hr
    obtain ⟨issued, htrace, -, hprctl, -⟩ :=
      Compat.restrictSelf_issued (rulesetChain handled calls k).2 hb
    refine ⟨issued ++ answers.reverse, by rw [htrace, hk, List.append_assoc], ?_⟩
    simpa [hr, exists_or, not_mem_of_map_fst hmap (.prctl PR_SET_NO_NEW_PRIVS 1 0 0 0)]
      using hprctl
  · obtain ⟨hb, -, hk⟩ := rulesetChain_of_create_error handled calls k (by omega)
    exact ⟨[], by simp [Compat.restrictSelf, hb, hk], by simp [hr]⟩

end Landlock
