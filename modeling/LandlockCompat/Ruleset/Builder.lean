/-
  LandlockCompat.Ruleset.Builder

  The builders of `lib.rs`: `RulesetAttr` (handled accesses), `Ruleset` (the
  kernel ruleset and its `no_new_privs` flag) and the `PathBeneath` rule, with
  their build methods on `Compat<_>` and the final `restrict_self`.

  Each build method on an absent build records `Fake`; on a present one it does
  its work (a system call for `create` and `add_rule`) and records the status.
  `allow_access`, `handle_fs` and `set_no_new_privs` only set a field of the
  build, so they share one definition (`Compat.updateBuild`).  The `records_*`
  lemmas say what each method does to the chain's bookkeeping, the
  `*_runtimeError_iff` lemmas that it records a runtime error exactly when its
  system call failed, and `restrictSelf_issued` which calls `restrict_self` issues
  and what it reports.
-/
import LandlockCompat.Ruleset.Compat

namespace Landlock

/-- `PathBeneath`: a rule allowing `attr.allowed_access` beneath `attr.parent_fd`. -/
structure PathBeneath where
  attr : LandlockPathBeneathAttr
deriving DecidableEq, Repr

/-- `RulesetAttr`: the accesses a ruleset handles. -/
structure RulesetAttr where
  handledFs : AccessFs
deriving DecidableEq

/-- `Ruleset`: a created kernel ruleset. -/
structure Ruleset where
  fd : Int
  noNewPrivs : Bool
deriving DecidableEq, Repr

namespace PathBeneath

/-- `PathBeneath::new`: every access right is allowed until `allow_access`. -/
def new (parent : Int) : Compat PathBeneath :=
  Compat.new .Full ⟨{ allowedAccess := AccessFs.all.bits, parentFd := parent }⟩

/-- `Rule::as_ptr`: the attribute the kernel reads. -/
def asPtr (self : PathBeneath) : LandlockPathBeneathAttr := self.attr

/-- `Rule::get_type_id`. -/
def getTypeId (_ : PathBeneath) : Nat := LANDLOCK_RULE_PATH_BENEATH

/-- `Rule::get_flags`. -/
def getFlags (_ : PathBeneath) : UInt32 := 0

end PathBeneath

/-- `RulesetAttr::new`: every access right is handled until `handle_fs`. -/
def RulesetAttr.new : Compat RulesetAttr :=
  Compat.new .Full ⟨AccessFs.all⟩

/-- `prctl_set_no_new_privs`. -/
def prctlSetNoNewPrivs (k : Kernel) : Except Error Unit × Kernel :=
  let (r, k) := k.call (.prctl PR_SET_NO_NEW_PRIVS 1 0 0 0)
  (if r.ret = 0 then .ok () else .error (.lastOsError r), k)

/-- `Ruleset::new`: `landlock_create_ruleset(&attr, size_of_val(&attr), 0)`. -/
def Ruleset.new (rulesetAttr : RulesetAttr) (k : Kernel) : Except Error Ruleset × Kernel :=
  let attr : LandlockRulesetAttr := ⟨rulesetAttr.handledFs.bits⟩
  let (r, k) := k.call (.landlockCreateRuleset (some attr) 8 0)
  (if r.ret ≥ 0 then .ok ⟨r.ret, true⟩ else .error (.lastOsError r), k)

/-- The ruleset `Ruleset::new` creates has `no_new_privs` set. -/
theorem Ruleset.new_noNewPrivs {a : RulesetAttr} {k k' : Kernel} {r : Ruleset}
    (h : Ruleset.new a k = (.ok r, k')) : r.noNewPrivs = true := by
  simp only [Ruleset.new, Kernel.call, Prod.mk.injEq] at h
  split at h
  · exact (Except.ok.inj h.1) ▸ rfl
  · cases h.1

/-- What a build chain shows of itself whatever it builds: the last call status,
    what `get_last_error` returns, and the build's status (`none` once absent). -/
structure Bookkeeping where
  last : LastCall
  lastError : Option Error
  status : Option CompatStatus

/-- `b'` follows `b` by a build method that recorded `st`: the last call, the last
    error and the build's status move as `set_last_call_status` moves them, over a
    build that is kept or dropped; an absent build stays absent, `Fake` is recorded
    exactly over an absent build, and a build is only dropped by a runtime error. -/
structure Records (b b' : Bookkeeping) (st : LastCall) : Prop where
  last : b'.last = st
  lastError : b'.lastError = st.runtimeError?.or b.lastError
  status : b'.status = none ∨
    b'.status = if st = .FullSuccess then b.status else b.status.map fun _ => .Partial
  absent : b.status = none → b'.status = none
  fake : st = .Fake ↔ b.status = none
  lost : b.status ≠ none → b'.status = none → ∃ e, st = .RuntimeError e

namespace Compat

/-- The shape `allow_access`, `handle_fs` and `set_no_new_privs` share: on an absent
    build record `Fake`; else set a field of the build's data and record `FullSuccess`. -/
def updateBuild {T : Type} (self : Compat T) (update : T → T) : Compat T :=
  match self.build with
  | none => self.setLastCallStatus .Fake
  | some build =>
    setLastCallStatus { self with build := some ⟨build.status, update build.data⟩ } .FullSuccess

/-- `Compat<PathBeneath>::allow_access`. -/
def allowAccess (self : Compat PathBeneath) (allowed : AccessFs) : Compat PathBeneath :=
  self.updateBuild fun data => ⟨{ data.attr with allowedAccess := allowed.bits }⟩

/-- `Compat<RulesetAttr>::handle_fs`. -/
def handleFs (self : Compat RulesetAttr) (access : AccessFs) : Compat RulesetAttr :=
  self.updateBuild fun data => { data with handledFs := access }

/-- `Compat<RulesetAttr>::create`: the ruleset inherits the build status. -/
def create (self : Compat RulesetAttr) (k : Kernel) : Compat Ruleset × Kernel :=
  match self.build with
  | none => ((self.merge none).setLastCallStatus .Fake, k)
  | some build =>
    match Ruleset.new build.data k with
    | (.ok ruleset, k) =>
      ((self.merge (some ⟨build.status, ruleset⟩)).setLastCallStatus .FullSuccess, k)
    | (.error e, k) => ((self.merge none).setLastCallStatus (.RuntimeError e), k)

/-- `Compat<Ruleset>::add_rule`: records the rule's build status, `Unsupported` for
    an absent rule, or the error of `landlock_add_rule`. -/
def addRule (self : Compat Ruleset) (rule : Compat PathBeneath) (k : Kernel) :
    Compat Ruleset × Kernel :=
  match self.build with
  | none => (self.setLastCallStatus .Fake, k)
  | some rulesetBuild =>
    let (lastCallStatus, k) : LastCall × Kernel :=
      match rule.build with
      | none => (.Unsupported, k)
      | some ruleBuild =>
        let (r, k) := k.call (.landlockAddRule rulesetBuild.data.fd ruleBuild.data.getTypeId
          ruleBuild.data.asPtr ruleBuild.data.getFlags)
        (if r.ret = 0 then LastCall.from ruleBuild.status else .RuntimeError (.lastOsError r), k)
    (self.setLastCallStatus lastCallStatus, k)

/-- `Compat<Ruleset>::set_no_new_privs`. -/
def setNoNewPrivs (self : Compat Ruleset) (noNewPrivs : Bool) : Compat Ruleset :=
  self.updateBuild fun data => { data with noNewPrivs }

/-- `Compat<Ruleset>::restrict_self`. -/
def restrictSelf (self : Compat Ruleset) (k : Kernel) : RestrictionStatus × Kernel :=
  match self.build with
  | none => (.Unrestricted self.getLastError, k)
  | some build =>
    let (noNewPrivs, k) : Except Error Unit × Kernel :=
      if build.data.noNewPrivs then prctlSetNoNewPrivs k else (.ok (), k)
    match noNewPrivs with
    | .error e => (.Unrestricted (some e), k)
    | .ok () =>
      let (r, k) := k.call (.landlockRestrictSelf build.data.fd 0)
      if r.ret = 0 then
        match build.status with
        | .Full => (.FullyRestricted, k)
        | .Partial => (.PartiallyRestricted self.getLastError, k)
      else (.Unrestricted (some (.lastOsError r)), k)

/-! ## What a build method does to the chain -/


variable {T U : Type}

/-- The chain's bookkeeping: `last`, what `get_last_error` returns, and the build's
    status (`none` once the build is absent). -/
def bookkeeping (self : Compat T) : Bookkeeping := ⟨self.last, self.getLastError, self.status⟩

/-- Recording over the chain's own bookkeeping, with a build that keeps its status or
    is dropped by a runtime error. -/
theorem records_setLastCallStatus {c : Compat T} (d : Compat U) (st : LastCall)
    (hlast : d.last = c.last) (hprev : d.prevError = c.prevError)
    (hstatus : d.status = c.status ∨ d.status = none ∧ ∃ e, st = .RuntimeError e)
    (hfake : st = .Fake ↔ c.status = none) :
    Records c.bookkeeping (d.setLastCallStatus st).bookkeeping st := by
  have herr : d.getLastError = c.getLastError := by simp only [getLastError, hlast, hprev]
  refine ⟨rfl, by simp only [bookkeeping, getLastError_setLastCallStatus, herr], ?_,
    fun h => ?_, hfake, fun hc hd => ?_⟩
  · simp only [bookkeeping, status_setLastCallStatus]
    rcases hstatus with h | ⟨h, -⟩
    · right
      simp only [h]
    · left
      simp only [h]
      split <;> rfl
  · simp only [bookkeeping, status_setLastCallStatus] at h ⊢
    rcases hstatus with h' | ⟨h', -⟩ <;> rw [h'] <;> split <;> simp [h]
  · simp only [bookkeeping, status_setLastCallStatus] at hc hd
    rcases hstatus with h | ⟨-, hst⟩
    · rw [h] at hd
      split at hd <;> simp_all
    · exact hst

/-- The build's data changes, its status does not. -/
@[simp] theorem build_updateBuild (c : Compat T) (update : T → T) :
    (c.updateBuild update).build = c.build.map fun b => ⟨b.status, update b.data⟩ := by
  unfold updateBuild
  split <;> simp_all [setLastCallStatus]

@[simp] theorem getLastError_updateBuild (c : Compat T) (update : T → T) :
    (c.updateBuild update).getLastError = c.getLastError := by
  unfold updateBuild
  split
  · simp [LastCall.runtimeError?]
  · simp [LastCall.runtimeError?]
    rfl

@[simp] theorem status_updateBuild (c : Compat T) (update : T → T) :
    (c.updateBuild update).status = c.status := by
  simp [status, Option.map_map, Function.comp_def]

theorem records_updateBuild (c : Compat T) (update : T → T) :
    ∃ st, Records c.bookkeeping (c.updateBuild update).bookkeeping st := by
  unfold updateBuild
  split <;> rename_i h
  · exact ⟨_, records_setLastCallStatus c _ rfl rfl (.inl rfl) (by simp [status, h])⟩
  · exact ⟨_, records_setLastCallStatus _ _ rfl rfl (.inl (by simp [status, h]))
      (by simp [status, h])⟩

theorem records_create (c : Compat RulesetAttr) (k : Kernel) :
    ∃ st, Records c.bookkeeping (c.create k).1.bookkeeping st := by
  unfold create
  split <;> rename_i h
  · exact ⟨_, records_setLastCallStatus _ _ rfl rfl (.inl (by simp [status, h]))
      (by simp [status, h])⟩
  · split
    · exact ⟨_, records_setLastCallStatus _ _ rfl rfl (.inl (by simp [status, h]))
        (by simp [status, h])⟩
    · exact ⟨_, records_setLastCallStatus _ _ rfl rfl (.inr ⟨rfl, _, rfl⟩) (by simp [status, h])⟩

theorem records_addRule (c : Compat Ruleset) (rule : Compat PathBeneath) (k : Kernel) :
    ∃ st, Records c.bookkeeping (c.addRule rule k).1.bookkeeping st := by
  unfold addRule
  split <;> rename_i h
  · exact ⟨_, records_setLastCallStatus c _ rfl rfl (.inl rfl) (by simp [status, h])⟩
  · refine ⟨_, records_setLastCallStatus c _ rfl rfl (.inl rfl) ?_⟩
    simp only [status, h, Option.map_some', reduceCtorEq, iff_false]
    split
    · simp
    · split
      · exact LastCall.from_ne_fake _
      · simp

/-! ## The build's data -/

/-- A ruleset built by `create` starts with `no_new_privs` set. -/
theorem noNewPrivs_create (c : Compat RulesetAttr) (k : Kernel) {b : CompatBuild Ruleset}
    (hb : (c.create k).1.build = some b) : b.data.noNewPrivs = true := by
  unfold create at hb
  split at hb
  · rw [(build_setLastCallStatus_eq_none _ _).2 rfl] at hb
    cases hb
  · split at hb <;> rename_i hnew
    · simp only [build_setLastCallStatus_fullSuccess, build_merge, Option.some.injEq] at hb
      subst hb
      exact Ruleset.new_noNewPrivs hnew
    · rw [(build_setLastCallStatus_eq_none _ _).2 rfl] at hb
      cases hb

/-- `add_rule` never touches the ruleset's data. -/
@[simp] theorem data_addRule (c : Compat Ruleset) (rule : Compat PathBeneath) (k : Kernel) :
    (c.addRule rule k).1.build.map CompatBuild.data = c.build.map CompatBuild.data := by
  unfold addRule
  split <;> simp

/-! ## Runtime errors and failed system calls -/

theorem updateBuild_last_ne_runtimeError (c : Compat T) (update : T → T) (e : Error) :
    (c.updateBuild update).last ≠ .RuntimeError e := by
  unfold updateBuild
  split <;> simp

/-- `create` records a runtime error exactly when `landlock_create_ruleset` failed. -/
theorem create_runtimeError_iff (c : Compat RulesetAttr) (k : Kernel) (e : Error) :
    (c.create k).1.last = .RuntimeError e ↔ k.FailedWith (c.create k).2 e := by
  unfold create
  rcases c.build with _ | b
  · simpa using Kernel.not_failedWith_self rfl e
  simp only [Ruleset.new, Kernel.call]
  generalize k.respond k.trace _ = r
  by_cases hr : r.ret < 0
  · simp only [ge_iff_le, Int.not_le.2 hr, ite_false]
    rw [Kernel.failedWith_iff rfl]
    simp [Syscall.failed, hr, @eq_comm _ e]
  · simp only [ge_iff_le, Int.not_lt.1 hr, ite_true]
    rw [Kernel.failedWith_iff rfl]
    simp [Syscall.failed, hr]

/-- `add_rule` records a runtime error exactly when `landlock_add_rule` failed. -/
theorem addRule_runtimeError_iff (c : Compat Ruleset) (rule : Compat PathBeneath) (k : Kernel)
    (e : Error) : (c.addRule rule k).1.last = .RuntimeError e ↔ k.FailedWith (c.addRule rule k).2 e := by
  unfold addRule
  rcases c.build with _ | b
  · simpa using Kernel.not_failedWith_self rfl e
  rcases rule.build with _ | rb
  · simpa using Kernel.not_failedWith_self rfl e
  simp only [Kernel.call]
  generalize k.respond k.trace _ = r
  rw [Kernel.failedWith_iff rfl]
  by_cases hr : r.ret = 0 <;> simp [hr, Syscall.failed, LastCall.from_ne_runtimeError, @eq_comm _ e]

/-! ## `restrict_self` -/

/-- What `restrict_self` does over a present build: it issues `prctl` exactly when
    `no_new_privs` is set, then `landlock_restrict_self` on the ruleset once that
    succeeded, and nothing else.  It reports `FullyRestricted` over a `Full` build and
    `PartiallyRestricted` with the chain's last error over a `Partial` one, exactly
    when every call it issued succeeded, `landlock_restrict_self` among them. -/
theorem restrictSelf_issued {c : Compat Ruleset} {b : CompatBuild Ruleset} (k : Kernel)
    (hb : c.build = some b) :
    ∃ issued, (c.restrictSelf k).2.trace = issued ++ k.trace ∧
      (∀ p ∈ issued, p.1 = .prctl PR_SET_NO_NEW_PRIVS 1 0 0 0 ∨
        p.1 = .landlockRestrictSelf b.data.fd 0) ∧
      ((∃ q, (Syscall.prctl PR_SET_NO_NEW_PRIVS 1 0 0 0, q) ∈ issued) ↔ b.data.noNewPrivs = true) ∧
      ((c.restrictSelf k).1 = .FullyRestricted ↔ b.status = .Full ∧
        (∀ p ∈ issued, p.2.ret = 0) ∧ ∃ q, (Syscall.landlockRestrictSelf b.data.fd 0, q) ∈ issued) ∧
      ∀ err, (c.restrictSelf k).1 = .PartiallyRestricted err ↔ b.status = .Partial ∧
        (∀ p ∈ issued, p.2.ret = 0) ∧ (∃ q, (Syscall.landlockRestrictSelf b.data.fd 0, q) ∈ issued) ∧
        c.getLastError = err := by
  obtain ⟨st, fd, n⟩ := b
  unfold Compat.restrictSelf
  simp only [hb, prctlSetNoNewPrivs, Kernel.call]
  generalize hP : Syscall.prctl PR_SET_NO_NEW_PRIVS 1 0 0 0 = P
  generalize hR : Syscall.landlockRestrictSelf fd 0 = R
  have hPR : P ≠ R := by rw [← hP, ← hR]; simp
  cases n
  · simp only [Bool.false_eq_true, ite_false]
    refine ⟨[(R, k.respond k.trace R)], ?_, ?_, ?_, ?_, ?_⟩ <;> cases st <;> (try split) <;> simp [*]
  · by_cases h0 : (k.respond k.trace P).ret = 0
    · simp only [h0, ite_true]
      refine ⟨[(R, k.respond ((P, k.respond k.trace P) :: k.trace) R), (P, k.respond k.trace P)],
        ?_, ?_, ?_, ?_, ?_⟩ <;> cases st <;> (try split) <;> simp [*]
    · exact ⟨[(P, k.respond k.trace P)], by simp [h0], by simp, by simp, by simp [h0, hPR],
        by simp [h0, hPR]⟩

/-- Over an absent build, or one downgraded to `Partial`, `restrict_self` reports an
    error whenever the chain holds one. -/
theorem restrictSelf_carries_error {c : Compat Ruleset} {k : Kernel} {e : Error}
    (hs : c.status ≠ some .Full) (he : c.getLastError = some e) :
    ∃ e', (c.restrictSelf k).1 = .PartiallyRestricted (some e') ∨
      (c.restrictSelf k).1 = .Unrestricted (some e') := by
  unfold restrictSelf
  rcases hb : c.build with _ | b
  · exact ⟨e, by simp [he]⟩
  have hst : b.status = .Partial := by
    cases h : b.status
    · simp [status, hb, h] at hs
    · rfl
  rcases hp : (if b.data.noNewPrivs then prctlSetNoNewPrivs k else (.ok (), k)) with
    ⟨_ | ⟨⟩, k₁⟩ <;> simp only [hp, Kernel.call]
  · exact ⟨_, .inr rfl⟩
  · split
    · exact ⟨e, by simp [hst, he]⟩
    · exact ⟨_, .inr rfl⟩

/-- Over a present build, `restrict_self` reports `FullyRestricted`, or
    `PartiallyRestricted` with the chain's last error over a `Partial` build, or
    `Unrestricted` with the error of the call that failed. -/
theorem restrictSelf_cases {c : Compat Ruleset} {b : CompatBuild Ruleset} (k : Kernel)
    (hb : c.build = some b) :
    (c.restrictSelf k).1 = .FullyRestricted ∨
      ((c.restrictSelf k).1 = .PartiallyRestricted c.getLastError ∧ b.status = .Partial) ∨
      ∃ e, (c.restrictSelf k).1 = .Unrestricted (some e) := by
  unfold Compat.restrictSelf
  rcases hp : (if b.data.noNewPrivs then prctlSetNoNewPrivs k else (.ok (), k)) with
    ⟨_ | ⟨⟩, k₁⟩ <;> simp only [hb, hp, Kernel.call]
  · exact .inr (.inr ⟨_, rfl⟩)
  · split
    · cases b.status <;> simp
    · exact .inr (.inr ⟨_, rfl⟩)

end Compat

end Landlock
