/-
  LandlockCompat.Ruleset.Chain

  Build chains as a state machine.  A chain is a `Compat` of one of the builder
  types; a step is one builder call answered by the kernel (any answer: each step
  takes its own kernel), or an `into_result` that returns `Ok`.  `Reach c log`
  says `c` is reached from `RulesetAttr::new()` or `PathBeneath::new(fd)` by steps
  that recorded `log`, most recent first; `c.Runs calls c'` says `c'` follows `c`
  by `calls`, in order.

  One inversion lemma (`step_cases`) says what a step can do to the bookkeeping,
  and `step_runtimeError_iff` when it records a runtime error: exactly when the
  system call it issued failed.  The invariant `Bookkeeping.Inv` (the bookkeeping
  agrees with the recorded log) follows for every reachable chain, and
  `NoNewPrivsFollows` (a ruleset's `no_new_privs` is the last value
  `set_no_new_privs` set) for every run from a `RulesetAttr`.  With them come the
  guarantees of the build chain: a `Partial` status is never turned back into
  `Full`, and `restrict_self` issues `prctl` exactly when `no_new_privs` is set
  (`chain_status_tracks_calls`); a runtime error is never lost
  (`runtime_error_reported`); `Fake` is recorded exactly on an absent build
  (`fake_recorded_absent`); and a build is only ever lost to a runtime error, so
  `into_result` checked after every call guarantees what its threshold says
  (`checked_chain_guarantees`).
-/
import LandlockCompat.Ruleset.Builder

namespace Landlock

/-- A build chain at some point of its build: a `Compat` of one of the builder types. -/
inductive Chain where
  | rulesetAttr (c : Compat RulesetAttr)
  | ruleset (c : Compat Ruleset)
  | pathBeneath (c : Compat PathBeneath)

/-- A call on a build chain. -/
inductive Call where
  | handleFs (access : AccessFs)
  | create
  | allowAccess (allowed : AccessFs)
  | setNoNewPrivs (noNewPrivs : Bool)
  | addRule (rule : Compat PathBeneath)
  | intoResult (threshold : ErrorThreshold)

/-- The build methods, all calls but `into_result`. -/
def Call.IsBuild : Call → Prop
  | .intoResult _ => False
  | _ => True

/-- The value a `set_no_new_privs` call passes. -/
def Call.noNewPrivs? : Call → Option Bool
  | .setNoNewPrivs noNewPrivs => some noNewPrivs
  | _ => none

namespace Chain

/-- The chain's bookkeeping, whatever it builds. -/
def bookkeeping : Chain → Bookkeeping
  | rulesetAttr c => c.bookkeeping
  | ruleset c => c.bookkeeping
  | pathBeneath c => c.bookkeeping

/-- One call on the chain, answered by the kernel `k`: `none` when the call is not a
    method of the chain's type, or is an `into_result` that returns `Err`. -/
def step (k : Kernel) : Chain → Call → Option (Chain × Kernel)
  | rulesetAttr c, .handleFs access => some (rulesetAttr (c.handleFs access), k)
  | rulesetAttr c, .create => some (ruleset (c.create k).1, (c.create k).2)
  | ruleset c, .setNoNewPrivs noNewPrivs => some (ruleset (c.setNoNewPrivs noNewPrivs), k)
  | ruleset c, .addRule rule => some (ruleset (c.addRule rule k).1, (c.addRule rule k).2)
  | pathBeneath c, .allowAccess allowed => some (pathBeneath (c.allowAccess allowed), k)
  | rulesetAttr c, .intoResult t => (c.intoResult t).toOption.map fun c => (rulesetAttr c, k)
  | ruleset c, .intoResult t => (c.intoResult t).toOption.map fun c => (ruleset c, k)
  | pathBeneath c, .intoResult t => (c.intoResult t).toOption.map fun c => (pathBeneath c, k)
  | _, _ => none

/-- An `into_result` step hands back the chain and the kernel, and was not taken on a
    runtime error. -/
theorem step_intoResult {c c' : Chain} {t : ErrorThreshold} {k k' : Kernel}
    (h : c.step k (.intoResult t) = some (c', k')) :
    c' = c ∧ k' = k ∧ ∀ e, c.bookkeeping.last ≠ .RuntimeError e := by
  have hres : ∀ {T} (wrap : Compat T → Chain) (x : Compat T),
      (x.intoResult t).toOption.map (fun x => (wrap x, k)) = some (c', k') →
        c' = wrap x ∧ k' = k ∧ ∀ e, x.last ≠ .RuntimeError e := by
    intro T wrap x hx
    cases hr : x.intoResult t with
    | error e => simp [hr, Except.toOption] at hx
    | ok x' =>
      simp only [hr, Except.toOption, Option.map_some', Option.some.injEq, Prod.mk.injEq] at hx
      rw [← hx.1, ← hx.2, Compat.intoResult_eq_ok hr]
      exact ⟨rfl, rfl, Compat.last_ne_runtimeError_of_intoResult_eq_ok hr⟩
  cases c <;> exact hres _ _ h

/-- What a step is, one case per method: an `into_result` that hands the chain back,
    or the method applied to the chain's `Compat` on the kernel `k`. -/
theorem step_eq_some {c c' : Chain} {call : Call} {k k' : Kernel}
    (h : c.step k call = some (c', k')) :
    (∃ t, call = .intoResult t ∧ c' = c ∧ k' = k ∧ ∀ e, c.bookkeeping.last ≠ .RuntimeError e) ∨
    (∃ x a, c = .rulesetAttr x ∧ call = .handleFs a ∧ c' = .rulesetAttr (x.handleFs a) ∧ k' = k) ∨
    (∃ x, c = .rulesetAttr x ∧ call = .create ∧ c' = .ruleset (x.create k).1 ∧
      k' = (x.create k).2) ∨
    (∃ x a, c = .pathBeneath x ∧ call = .allowAccess a ∧ c' = .pathBeneath (x.allowAccess a) ∧
      k' = k) ∨
    (∃ x n, c = .ruleset x ∧ call = .setNoNewPrivs n ∧ c' = .ruleset (x.setNoNewPrivs n) ∧
      k' = k) ∨
    (∃ x r, c = .ruleset x ∧ call = .addRule r ∧ c' = .ruleset (x.addRule r k).1 ∧
      k' = (x.addRule r k).2) := by
  cases call
  case intoResult t => exact .inl ⟨t, rfl, step_intoResult h⟩
  all_goals
    cases c <;> simp only [step, reduceCtorEq] at h
    obtain ⟨rfl, rfl⟩ := Option.some.inj h
  · exact .inr (.inl ⟨_, _, rfl, rfl, rfl, rfl⟩)
  · exact .inr (.inr (.inl ⟨_, rfl, rfl, rfl, rfl⟩))
  · exact .inr (.inr (.inr (.inl ⟨_, _, rfl, rfl, rfl, rfl⟩)))
  · exact .inr (.inr (.inr (.inr (.inl ⟨_, _, rfl, rfl, rfl, rfl⟩))))
  · exact .inr (.inr (.inr (.inr (.inr ⟨_, _, rfl, rfl, rfl, rfl⟩))))

/-- What a step can do: an `into_result` hands the chain back unchanged; a build
    method records some status. -/
theorem step_cases {c c' : Chain} {call : Call} {k k' : Kernel}
    (h : c.step k call = some (c', k')) :
    (c' = c ∧ ¬call.IsBuild) ∨ (call.IsBuild ∧ ∃ st, Records c.bookkeeping c'.bookkeeping st) := by
  rcases step_eq_some h with ⟨t, rfl, rfl, -⟩ | ⟨x, a, rfl, rfl, rfl, -⟩ | ⟨x, rfl, rfl, rfl, -⟩ |
    ⟨x, a, rfl, rfl, rfl, -⟩ | ⟨x, n, rfl, rfl, rfl, -⟩ | ⟨x, r, rfl, rfl, rfl, -⟩
  · exact .inl ⟨rfl, id⟩
  · exact .inr ⟨trivial, Compat.records_updateBuild _ _⟩
  · exact .inr ⟨trivial, Compat.records_create _ _⟩
  · exact .inr ⟨trivial, Compat.records_updateBuild _ _⟩
  · exact .inr ⟨trivial, Compat.records_updateBuild _ _⟩
  · exact .inr ⟨trivial, Compat.records_addRule _ _ _⟩

/-- A step records a runtime error exactly when it issued a system call that failed,
    and the error is the one `Error::last_os_error()` reads after that call. -/
theorem step_runtimeError_iff {c c' : Chain} {call : Call} {k k' : Kernel}
    (h : c.step k call = some (c', k')) (e : Error) :
    c'.bookkeeping.last = .RuntimeError e ↔ k.FailedWith k' e := by
  have hself := Kernel.not_failedWith_self (k := k) rfl e
  rcases step_eq_some h with ⟨t, rfl, rfl, rfl, hlast⟩ | ⟨x, a, rfl, rfl, rfl, rfl⟩ |
    ⟨x, rfl, rfl, rfl, rfl⟩ | ⟨x, a, rfl, rfl, rfl, rfl⟩ | ⟨x, n, rfl, rfl, rfl, rfl⟩ |
    ⟨x, r, rfl, rfl, rfl, rfl⟩
  · exact iff_of_false (hlast e) hself
  · exact iff_of_false (Compat.updateBuild_last_ne_runtimeError _ _ e) hself
  · exact Compat.create_runtimeError_iff _ _ e
  · exact iff_of_false (Compat.updateBuild_last_ne_runtimeError _ _ e) hself
  · exact iff_of_false (Compat.updateBuild_last_ne_runtimeError _ _ e) hself
  · exact Compat.addRule_runtimeError_iff _ _ _ e

/-- `c.Runs calls c'`: `c'` follows `c` by `calls`, in order, each answered by some
    kernel. -/
inductive Runs (c : Chain) : List Call → Chain → Prop
  | nil : Runs c [] c
  | snoc {c' c'' : Chain} {calls : List Call} {call : Call} {k k' : Kernel} :
      Runs c calls c' → c'.step k call = some (c'', k') → Runs c (calls ++ [call]) c''

/-- An absent build stays absent. -/
theorem Runs.absent {c c' : Chain} {calls : List Call} (h : c.Runs calls c')
    (hc : c.bookkeeping.status = none) : c'.bookkeeping.status = none := by
  induction h with
  | nil => exact hc
  | snoc _ hstep ih =>
    rcases step_cases hstep with ⟨rfl, -⟩ | ⟨-, st, hr⟩
    · exact ih
    · exact hr.absent ih

/-- What a chain started at a `RulesetAttr` holds of `no_new_privs`, given the values
    `sets` its `set_no_new_privs` calls passed: there are none while it is still a
    `RulesetAttr`, and a present ruleset build holds the last one, or `true` (what
    `Ruleset::new` sets) when there is none. -/
def NoNewPrivsFollows (sets : List Bool) : Chain → Prop
  | rulesetAttr _ => sets = []
  | ruleset c => ∀ b, c.build = some b → b.data.noNewPrivs = sets.getLast?.getD true
  | pathBeneath _ => False

/-- Every step keeps `no_new_privs` following the `set_no_new_privs` calls: `create`
    starts it at `true`, `set_no_new_privs` sets it, and nothing else touches it. -/
theorem NoNewPrivsFollows.step {c c' : Chain} {call : Call} {k k' : Kernel} {sets : List Bool}
    (hc : c.NoNewPrivsFollows sets) (h : c.step k call = some (c', k')) :
    c'.NoNewPrivsFollows (sets ++ [call].filterMap Call.noNewPrivs?) := by
  rcases step_eq_some h with ⟨t, rfl, rfl, -⟩ | ⟨x, a, rfl, rfl, rfl, -⟩ | ⟨x, rfl, rfl, rfl, -⟩ |
    ⟨x, a, rfl, rfl, rfl, -⟩ | ⟨x, n, rfl, rfl, rfl, -⟩ | ⟨x, r, rfl, rfl, rfl, -⟩
  · -- `into_result`
    simpa [Call.noNewPrivs?] using hc
  · -- `handle_fs`
    simpa [NoNewPrivsFollows, Call.noNewPrivs?] using hc
  · -- `create`
    intro b hb
    simp only [NoNewPrivsFollows] at hc
    simp [hc, Call.noNewPrivs?, Compat.noNewPrivs_create _ k hb]
  · -- `allow_access`, on a chain no run from a `RulesetAttr` reaches
    exact (hc : False).elim
  · -- `set_no_new_privs`
    intro b hb
    obtain ⟨b₀, -, rfl⟩ := Option.map_eq_some'.1 ((Compat.build_updateBuild _ _).symm.trans hb)
    simp [Call.noNewPrivs?]
  · -- `add_rule`
    intro b hb
    obtain ⟨b₀, hb₀, hdata⟩ := Option.map_eq_some'.1
      ((Compat.data_addRule _ _ k).symm.trans (congrArg (Option.map CompatBuild.data) hb))
    simpa [Call.noNewPrivs?, ← hdata] using hc b₀ hb₀

/-- Along a run from a `RulesetAttr`, `no_new_privs` follows the `set_no_new_privs`
    calls. -/
theorem Runs.noNewPrivsFollows {a : Compat RulesetAttr} {calls : List Call} {c : Chain}
    (h : (rulesetAttr a).Runs calls c) : c.NoNewPrivsFollows (calls.filterMap Call.noNewPrivs?) := by
  induction h with
  | nil => rfl
  | snoc _ hstep ih => simpa only [List.filterMap_append] using ih.step hstep

end Chain

/-- `Reach c log`: the chain `c` is reached from a builder's constructor by calls that
    recorded `log`, most recent first (an `into_result` repeats the last entry). -/
inductive Reach : Chain → List LastCall → Prop
  | rulesetAttrNew : Reach (.rulesetAttr RulesetAttr.new) [.FullSuccess]
  | pathBeneathNew (parent : Int) : Reach (.pathBeneath (PathBeneath.new parent)) [.FullSuccess]
  | step {c c' : Chain} {log : List LastCall} {call : Call} {k k' : Kernel} :
      Reach c log → c.step k call = some (c', k') → Reach c' (c'.bookkeeping.last :: log)

/-! ## The bookkeeping invariant -/

namespace Bookkeeping

/-- The bookkeeping agrees with the statuses recorded on the chain, most recent
    first: `last` is the latest one, `get_last_error` the latest runtime error, and a
    present build is `Full` exactly when every recorded status is `FullSuccess`. -/
structure Inv (b : Bookkeeping) (log : List LastCall) : Prop where
  last_eq : log.head? = some b.last
  lastError_eq : b.lastError = log.findSome? LastCall.runtimeError?
  status_full : ∀ s, b.status = some s → (s = .Full ↔ ∀ x ∈ log, x = .FullSuccess)

variable {b b' : Bookkeeping} {log : List LastCall} {st : LastCall}

/-- Recording a status keeps the bookkeeping in step with the log. -/
theorem Inv.records (hi : b.Inv log) (h : Records b b' st) : b'.Inv (st :: log) := by
  refine ⟨by simp [h.last], ?_, fun s hs => ?_⟩
  · rw [h.lastError, hi.lastError_eq]
    cases st <;> simp [LastCall.runtimeError?, List.findSome?_cons]
  · rcases h.status with h' | h' <;> rw [h'] at hs
    · cases hs
    · split at hs
      · subst st
        simp [hi.status_full s hs]
      · obtain ⟨_, -, rfl⟩ := Option.map_eq_some'.1 hs
        simp_all

/-- An `into_result` that returns `Ok` repeats the last entry. -/
theorem Inv.repeat (hi : b.Inv log) : b.Inv (b.last :: log) := by
  obtain ⟨rest, rfl⟩ : ∃ rest, log = b.last :: rest := by
    cases log with
    | nil => cases hi.last_eq
    | cons x rest => exact ⟨rest, by simpa using hi.last_eq⟩
  refine ⟨rfl, ?_, fun s hs => ?_⟩
  · rw [hi.lastError_eq]
    cases h : b.last.runtimeError? <;> simp [List.findSome?_cons, h]
  · rw [hi.status_full s hs]
    simp

end Bookkeeping

/-- Every reachable chain keeps its bookkeeping in step with what it recorded. -/
theorem Reach.inv {c : Chain} {log : List LastCall} (h : Reach c log) :
    c.bookkeeping.Inv log := by
  induction h with
  | rulesetAttrNew => exact ⟨rfl, rfl, by simp [Chain.bookkeeping, Compat.bookkeeping,
      RulesetAttr.new, Compat.new, Compat.status, LastCall.from]⟩
  | pathBeneathNew parent => exact ⟨rfl, rfl, by simp [Chain.bookkeeping, Compat.bookkeeping,
      PathBeneath.new, Compat.new, Compat.status, LastCall.from]⟩
  | step _ hstep ih =>
    rcases Chain.step_cases hstep with ⟨rfl, -⟩ | ⟨-, st, hr⟩
    · exact ih.repeat
    · rw [hr.last]
      exact ih.records hr

/-! ## Guarantees of the build chain -/

/-- The status of a build chain: once absent, the build stays absent and every build
    method records `Fake`; while present, it is `Full` exactly when every status
    recorded on the chain is `FullSuccess`.  A ruleset's `no_new_privs` is the value the
    last `set_no_new_privs` passed, `true` when there was none.  So `restrict_self`
    reports `FullyRestricted` only after a chain of full successes, over a `Full` build,
    once every call it issued succeeded: `landlock_restrict_self` on the ruleset, and
    `prctl`, which it issues exactly when `no_new_privs` is set. -/
theorem chain_status_tracks_calls :
    (∀ {c c' : Chain} {calls : List Call}, c.Runs calls c' → c.bookkeeping.status = none →
      c'.bookkeeping.status = none) ∧
    (∀ {c c' : Chain} {call : Call} {k k' : Kernel}, c.bookkeeping.status = none →
      c.step k call = some (c', k') → call.IsBuild → c'.bookkeeping.last = .Fake) ∧
    (∀ {c : Chain} {log : List LastCall}, Reach c log → ∀ s, c.bookkeeping.status = some s →
      (s = .Full ↔ ∀ x ∈ log, x = .FullSuccess)) ∧
    (∀ {a : Compat RulesetAttr} {calls : List Call} {rs : Compat Ruleset}
      {b : CompatBuild Ruleset}, (Chain.rulesetAttr a).Runs calls (.ruleset rs) →
      rs.build = some b → b.data.noNewPrivs = (calls.filterMap Call.noNewPrivs?).getLast?.getD true) ∧
    (∀ {rs : Compat Ruleset} {log : List LastCall} (k : Kernel), Reach (.ruleset rs) log →
      (rs.restrictSelf k).1 = .FullyRestricted →
      (∀ x ∈ log, x = .FullSuccess) ∧ ∃ b, rs.build = some b ∧ b.status = .Full ∧
        ∃ issued, (rs.restrictSelf k).2.trace = issued ++ k.trace ∧ (∀ p ∈ issued, p.2.ret = 0) ∧
          (∃ q, (Syscall.landlockRestrictSelf b.data.fd 0, q) ∈ issued) ∧
          ((∃ q, (Syscall.prctl PR_SET_NO_NEW_PRIVS 1 0 0 0, q) ∈ issued) ↔
            b.data.noNewPrivs = true)) := by
  refine ⟨fun h hc => h.absent hc, fun hc hstep hcall => ?_, fun h => h.inv.status_full,
    fun h hb => h.noNewPrivsFollows _ hb, fun {rs} {_} k h hfull => ?_⟩
  · rcases Chain.step_cases hstep with ⟨-, hnot⟩ | ⟨-, st, hr⟩
    · exact absurd hcall hnot
    · rw [hr.last, hr.fake.2 hc]
  · obtain ⟨b, hb⟩ : ∃ b, rs.build = some b := Option.ne_none_iff_exists'.1 fun hb => by
      simp [Compat.restrictSelf, hb] at hfull
    obtain ⟨issued, htrace, -, hprctl, hfr, -⟩ := Compat.restrictSelf_issued k hb
    obtain ⟨hs, hok, hR⟩ := hfr.1 hfull
    exact ⟨(h.inv.status_full .Full (by simp [Chain.bookkeeping, Compat.bookkeeping,
      Compat.status, hb, hs])).1 rfl, b, hb, hs, issued, htrace, hok, hR, hprctl⟩

/-- `RulesetAttr::new().create()` on a kernel with Landlock, and the kernel after it. -/
def createWithLandlock : Compat Ruleset × Kernel := RulesetAttr.new.create Kernel.withLandlock

/-- `createWithLandlock` then `.set_no_new_privs(false).restrict_self()`. -/
def restrictWithoutNoNewPrivs : RestrictionStatus × Kernel :=
  (createWithLandlock.1.setNoNewPrivs false).restrictSelf createWithLandlock.2

/-- `set_no_new_privs(false)` skips `prctl`: `RulesetAttr::new().create()
    .set_no_new_privs(false).restrict_self()` is `FullyRestricted` on a kernel with
    Landlock although no `prctl` call was issued. -/
theorem fullyRestricted_without_prctl :
    restrictWithoutNoNewPrivs.1 = .FullyRestricted ∧
      ∀ r, (Syscall.prctl PR_SET_NO_NEW_PRIVS 1 0 0 0, r) ∉ restrictWithoutNoNewPrivs.2.trace := by
  have htrace : restrictWithoutNoNewPrivs.2.trace =
      [(.landlockRestrictSelf 3 0, ⟨0, 0⟩),
        (.landlockCreateRuleset (some ⟨AccessFs.allBits⟩) 8 0, ⟨3, 0⟩)] := rfl
  refine ⟨rfl, fun r hr => ?_⟩
  rw [htrace] at hr
  simp at hr

/-- A log holding a runtime error splits at its most recent one. -/
theorem LastCall.exists_latest_runtimeError {log : List LastCall}
    (he : ∃ e, LastCall.RuntimeError e ∈ log) :
    ∃ e newer older, log = newer ++ .RuntimeError e :: older ∧
      (∀ x ∈ newer, x.runtimeError? = none) ∧ log.findSome? LastCall.runtimeError? = some e := by
  induction log with
  | nil => simp at he
  | cons x rest ih =>
    cases hx : x.runtimeError? with
    | some e =>
      exact ⟨e, [], rest, by simp [LastCall.runtimeError?_eq_some.1 hx], by simp, by simp [hx]⟩
    | none =>
      obtain ⟨e, newer, older, rfl, hnewer, hfind⟩ := ih (by
        obtain ⟨e, he⟩ := he
        rcases List.mem_cons.1 he with rfl | he
        · simp [LastCall.runtimeError?] at hx
        · exact ⟨e, he⟩)
      refine ⟨e, x :: newer, older, rfl, ?_, by simp [hx, hfind]⟩
      simp only [List.mem_cons, forall_eq_or_imp]
      exact ⟨hx, hnewer⟩

/-- A runtime error is never lost: from the step that records it on, `get_last_error`
    returns the most recently recorded runtime error, whatever was recorded after it,
    and `restrict_self` reports an error, so its `into_result` is `Err`. -/
theorem runtime_error_reported {c : Chain} {log : List LastCall} (h : Reach c log)
    (he : ∃ e, LastCall.RuntimeError e ∈ log) :
    ∃ e newer older, log = newer ++ .RuntimeError e :: older ∧
      (∀ x ∈ newer, x.runtimeError? = none) ∧ c.bookkeeping.lastError = some e ∧
      ∀ (rs : Compat Ruleset) (k : Kernel), c = .ruleset rs →
        ∃ e', ((rs.restrictSelf k).1 = .PartiallyRestricted (some e') ∨
            (rs.restrictSelf k).1 = .Unrestricted (some e')) ∧
          (rs.restrictSelf k).1.intoResult = .error e' := by
  obtain ⟨e, newer, older, hlog, hnewer, hfind⟩ := LastCall.exists_latest_runtimeError he
  have hi := h.inv
  refine ⟨e, newer, older, hlog, hnewer, hi.lastError_eq.trans hfind, fun rs k hc => ?_⟩
  subst hc
  have hs : rs.status ≠ some .Full := fun hs => by
    obtain ⟨e, he⟩ := he
    cases ((hi.status_full .Full hs).1 rfl) _ he
  obtain ⟨e', he'⟩ := Compat.restrictSelf_carries_error hs (hi.lastError_eq.trans hfind)
  refine ⟨e', he', ?_⟩
  rcases he' with h' | h' <;> rw [h'] <;> rfl

/-- `RulesetAttr::new().create()` on a kernel built without Landlock, and the kernel
    after it. -/
def createWithoutLandlock : Compat Ruleset × Kernel :=
  RulesetAttr.new.create Kernel.withoutLandlock

/-- What `RulesetAttr::new().create()` records on a kernel built without Landlock. -/
def createWithoutLandlockLog : List LastCall := [.RuntimeError (.Os ENOSYS), .FullSuccess]

/-- `runtime_error_reported` after `create()` failed on a kernel without Landlock. -/
theorem runtime_error_reported_without_landlock :
    Reach (.ruleset createWithoutLandlock.1) createWithoutLandlockLog ∧
    (∃ e, LastCall.RuntimeError e ∈ createWithoutLandlockLog) ∧
    ∃ e newer older, createWithoutLandlockLog = newer ++ .RuntimeError e :: older ∧
      (∀ x ∈ newer, x.runtimeError? = none) ∧
      (Chain.ruleset createWithoutLandlock.1).bookkeeping.lastError = some e ∧
      ∀ (rs : Compat Ruleset) (k : Kernel), Chain.ruleset createWithoutLandlock.1 = .ruleset rs →
        ∃ e', ((rs.restrictSelf k).1 = .PartiallyRestricted (some e') ∨
            (rs.restrictSelf k).1 = .Unrestricted (some e')) ∧
          (rs.restrictSelf k).1.intoResult = .error e' :=
  have hreach : Reach (.ruleset createWithoutLandlock.1) createWithoutLandlockLog :=
    @Reach.step _ _ _ .create Kernel.withoutLandlock _ Reach.rulesetAttrNew rfl
  have hmem : ∃ e, LastCall.RuntimeError e ∈ createWithoutLandlockLog :=
    ⟨_, List.mem_cons_self _ _⟩
  ⟨hreach, hmem, runtime_error_reported hreach hmem⟩

/-- `Fake` is recorded exactly on an absent build: a build method records it exactly when
    the build it is called on is absent, and once it is recorded, the build is absent. -/
theorem fake_recorded_absent :
    (∀ {c c' : Chain} {call : Call} {k k' : Kernel}, c.step k call = some (c', k') →
      call.IsBuild → (c'.bookkeeping.last = .Fake ↔ c.bookkeeping.status = none)) ∧
    ∀ {c : Chain} {log : List LastCall}, Reach c log → LastCall.Fake ∈ log →
      c.bookkeeping.status = none := by
  refine ⟨fun hstep hcall => ?_, fun h hf => ?_⟩
  · rcases Chain.step_cases hstep with ⟨-, hnot⟩ | ⟨-, st, hr⟩
    · exact absurd hcall hnot
    · rw [hr.last]
      exact hr.fake
  induction h with
  | rulesetAttrNew => simp at hf
  | pathBeneathNew parent => simp at hf
  | step hreach hstep ih =>
    rcases Chain.step_cases hstep with ⟨rfl, -⟩ | ⟨-, st, hr⟩
    · -- `into_result` repeats the last entry, which is already in the log.
      rcases List.mem_cons.1 hf with h | h
      · exact ih (h ▸ List.mem_of_mem_head? hreach.inv.last_eq)
      · exact ih h
    · rcases List.mem_cons.1 hf with h | h
      · exact hr.absent (hr.fake.1 (h.trans hr.last).symm)
      · exact hr.absent (ih h)

/-- A chain only loses its build to a runtime error. -/
theorem Reach.runtimeError_of_absent {c : Chain} {log : List LastCall} (h : Reach c log)
    (hc : c.bookkeeping.status = none) : ∃ e, LastCall.RuntimeError e ∈ log := by
  induction h with
  | rulesetAttrNew => simp [Chain.bookkeeping, Compat.bookkeeping, RulesetAttr.new, Compat.new,
      Compat.status] at hc
  | pathBeneathNew parent => simp [Chain.bookkeeping, Compat.bookkeeping, PathBeneath.new,
      Compat.new, Compat.status] at hc
  | @step c c' log call k k' _ hstep ih =>
    rcases Chain.step_cases hstep with ⟨rfl, -⟩ | ⟨-, st, hr⟩
    · obtain ⟨e, he⟩ := ih hc
      exact ⟨e, List.mem_cons_of_mem _ he⟩
    · by_cases hprev : c.bookkeeping.status = none
      · obtain ⟨e, he⟩ := ih hprev
        exact ⟨e, List.mem_cons_of_mem _ he⟩
      · obtain ⟨e, he⟩ := hr.lost hprev hc
        exact ⟨e, by rw [hr.last, he]; exact List.mem_cons_self _ _⟩

/-- What checking `into_result` after every call of a chain guarantees.  With
    `ErrorThreshold::Runtime`, which rejects exactly a runtime error, the build is never
    lost; with `ErrorThreshold::PartiallyCompatible`, which accepts exactly a full
    success, `restrict_self` enforces the whole ruleset or reports the error that stopped
    it: never `PartiallyRestricted`, never `Unrestricted(None)`. -/
theorem checked_chain_guarantees {c : Chain} {log : List LastCall} (h : Reach c log) :
    ((∀ x ∈ log, x.runtimeError? = none) → c.bookkeeping.status ≠ none) ∧
    ∀ (rs : Compat Ruleset) (k : Kernel), c = .ruleset rs → (∀ x ∈ log, x = .FullSuccess) →
      (rs.restrictSelf k).1 = .FullyRestricted ∨ ∃ e, (rs.restrictSelf k).1 = .Unrestricted (some e) := by
  refine ⟨fun hrt hc => ?_, fun rs k hc hfull => ?_⟩
  · obtain ⟨e, he⟩ := h.runtimeError_of_absent hc
    exact absurd (hrt _ he) (by simp)
  · subst hc
    obtain ⟨b, hb⟩ : ∃ b, rs.build = some b := Option.ne_none_iff_exists'.1 fun hb => by
      obtain ⟨e, he⟩ := h.runtimeError_of_absent (by simp [Chain.bookkeeping, Compat.bookkeeping,
        Compat.status, hb])
      cases hfull _ he
    have hs : b.status = .Full := (h.inv.status_full b.status (by simp [Chain.bookkeeping,
      Compat.bookkeeping, Compat.status, hb])).2 hfull
    rcases Compat.restrictSelf_cases k hb with h' | ⟨-, h'⟩ | h'
    · exact .inl h'
    · cases hs.symm.trans h'
    · exact .inr h'

/-- `checked_chain_guarantees` for `RulesetAttr::new().create()` on a kernel with Landlock. -/
theorem checked_chain_guarantees_create :
    Reach (.ruleset createWithLandlock.1) [.FullSuccess, .FullSuccess] ∧
    (((∀ x ∈ [LastCall.FullSuccess, .FullSuccess], x.runtimeError? = none) →
        (Chain.ruleset createWithLandlock.1).bookkeeping.status ≠ none) ∧
      ∀ (rs : Compat Ruleset) (k : Kernel), Chain.ruleset createWithLandlock.1 = .ruleset rs →
        (∀ x ∈ [LastCall.FullSuccess, .FullSuccess], x = .FullSuccess) →
        (rs.restrictSelf k).1 = .FullyRestricted ∨ ∃ e, (rs.restrictSelf k).1 = .Unrestricted (some e)) :=
  have hreach : Reach (.ruleset createWithLandlock.1) [.FullSuccess, .FullSuccess] :=
    @Reach.step _ _ _ .create Kernel.withLandlock _ Reach.rulesetAttrNew rfl
  ⟨hreach, checked_chain_guarantees hreach⟩

end Landlock
