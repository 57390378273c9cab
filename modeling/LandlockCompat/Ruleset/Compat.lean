/-
  LandlockCompat.Ruleset.Compat

  The build-chain wrapper of `lib.rs`: `Compat<T>` carries an optional build
  (absent once the chain is incompatible with the running system), the status
  of the last attempted call, and the last runtime error it replaced.

  `set_last_call_status` is the one place a build call records what it did:
  every status but `FullSuccess` downgrades the build to `Partial`, and a
  `RuntimeError` pushed out of `last` is saved in `prev_error`.  The lemmas
  here say so once (`setLastCallStatus_last`, `getLastError_setLastCallStatus`,
  `status_setLastCallStatus`); the builders and the chain only cite them.
-/
import LandlockCompat.Uapi

namespace Landlock

/-- `LastCall`: the last attempted call, which may not be the last of the build chain. -/
inductive LastCall where
  /-- Did handle the build method and all arguments. -/
  | FullSuccess
  /-- Did handle the build method but not all arguments. -/
  | PartialSuccess
  /-- Didn't handle the build method or don't handle any argument. -/
  | Unsupported
  /-- The build is `None`. -/
  | Fake
  /-- Did handle the build method and a subset of arguments, but the call returned an error. -/
  | RuntimeError (error : Error)
deriving DecidableEq, Repr

/-- `CompatStatus`. -/
inductive CompatStatus where
  | Full
  | Partial
deriving DecidableEq, Repr

/-- `ErrorThreshold`: what `into_result` counts as an error. -/
inductive ErrorThreshold where
  /-- Only a runtime error. -/
  | Runtime
  /-- A runtime error or a full incompatibility. -/
  | Incompatible
  /-- A runtime error or a partial compatibility. -/
  | PartiallyCompatible
deriving DecidableEq, Repr

namespace LastCall

/-- `From<CompatStatus> for LastCall`. -/
def «from» : CompatStatus → LastCall
  | .Full => FullSuccess
  | .Partial => PartialSuccess

/-- The error a `RuntimeError` carries. -/
def runtimeError? : LastCall → Option Error
  | RuntimeError e => some e
  | _ => none

@[simp] theorem runtimeError?_runtimeError (e : Error) : (RuntimeError e).runtimeError? = some e :=
  rfl

theorem from_ne_fake (status : CompatStatus) : LastCall.from status ≠ Fake := by
  cases status <;> simp [LastCall.from]

theorem from_ne_runtimeError (status : CompatStatus) (e : Error) :
    LastCall.from status ≠ RuntimeError e := by
  cases status <;> simp [LastCall.from]

theorem runtimeError?_eq_some {x : LastCall} {e : Error} :
    x.runtimeError? = some e ↔ x = RuntimeError e := by
  cases x <;> simp [runtimeError?]

end LastCall

/-- `CompatBuild<T>`. -/
structure CompatBuild (T : Type) where
  status : CompatStatus
  data : T

/-- `Compat<T>`, the newtype over `CompatObject<T>`, whose fields it carries. -/
structure Compat (T : Type) where
  /-- Saves the last call status for `into_result`. -/
  last : LastCall
  /-- Saves the last encountered error for `RestrictionStatus`. -/
  prevError : Option Error
  /-- `None` if the build chain is incompatible with the running system. -/
  build : Option (CompatBuild T)

namespace Compat

variable {T U : Type}

/-- `Compat::new`. -/
def new (status : CompatStatus) (data : T) : Compat T where
  last := LastCall.from status
  prevError := none
  build := some ⟨status, data⟩

/-- `Compat::set_last_call_status`: only downgrades build compatibility, and saves
    the runtime error `status` replaces, if any. -/
def setLastCallStatus (self : Compat T) (status : LastCall) : Compat T where
  last := status
  prevError :=
    match self.last with
    | .RuntimeError e => some e
    | _ => self.prevError
  build :=
    match status with
    | .FullSuccess => self.build
    | _ => self.build.map fun build => { build with status := .Partial }

/-- `Compat::get_last_error`. -/
def getLastError (self : Compat T) : Option Error :=
  match self.last with
  | .RuntimeError e => some e
  | _ => self.prevError

/-- `Compat::merge`: the chain's bookkeeping over another build. -/
def merge (self : Compat T) (build : Option (CompatBuild U)) : Compat U where
  last := self.last
  prevError := self.prevError
  build := build

/-- `Compat::into_result`. -/
def intoResult (self : Compat T) (threshold : ErrorThreshold) : Except Error (Compat T) :=
  match self.last with
  | .FullSuccess => .ok self
  | .PartialSuccess =>
    match threshold with
    | .PartiallyCompatible => .error (.Custom .InvalidData "Partial compatibility")
    | _ => .ok self
  | .Unsupported | .Fake =>
    match threshold with
    | .PartiallyCompatible | .Incompatible => .error (.Custom .InvalidData "Incompatibility")
    | _ => .ok self
  | .RuntimeError e => .error e

/-- The status of the build, `none` once the build is absent. -/
def status (self : Compat T) : Option CompatStatus :=
  self.build.map (·.status)

/-! ## Recording a call -/

@[simp] theorem setLastCallStatus_last (self : Compat T) (status : LastCall) :
    (self.setLastCallStatus status).last = status := rfl

/-- After recording `status`, the last error is the one `status` carries, else the
    one before. -/
@[simp] theorem getLastError_setLastCallStatus (self : Compat T) (status : LastCall) :
    (self.setLastCallStatus status).getLastError = status.runtimeError?.or self.getLastError := by
  cases status <;> cases h : self.last <;> simp [setLastCallStatus, getLastError, h, LastCall.runtimeError?]

/-- Recording keeps the build, downgraded to `Partial` unless the call fully succeeded. -/
@[simp] theorem status_setLastCallStatus (self : Compat T) (status : LastCall) :
    (self.setLastCallStatus status).status =
      if status = .FullSuccess then self.status else self.status.map fun _ => .Partial := by
  cases status <;> cases h : self.build <;> simp [setLastCallStatus, Compat.status, h]

@[simp] theorem build_setLastCallStatus_eq_none (self : Compat T) (status : LastCall) :
    (self.setLastCallStatus status).build = none ↔ self.build = none := by
  cases status <;> simp [setLastCallStatus]

@[simp] theorem build_setLastCallStatus_fullSuccess (self : Compat T) :
    (self.setLastCallStatus .FullSuccess).build = self.build := rfl

/-- Recording never touches the build's data. -/
@[simp] theorem data_setLastCallStatus (self : Compat T) (status : LastCall) :
    (self.setLastCallStatus status).build.map CompatBuild.data = self.build.map CompatBuild.data := by
  cases status <;> simp [setLastCallStatus, Option.map_map, Function.comp_def]

@[simp] theorem build_merge (self : Compat T) (build : Option (CompatBuild U)) :
    (self.merge build).build = build := rfl

@[simp] theorem merge_last (self : Compat T) (build : Option (CompatBuild U)) :
    (self.merge build).last = self.last := rfl

@[simp] theorem getLastError_merge (self : Compat T) (build : Option (CompatBuild U)) :
    (self.merge build).getLastError = self.getLastError := rfl

@[simp] theorem status_merge (self : Compat T) (build : Option (CompatBuild U)) :
    (self.merge build).status = build.map (·.status) := rfl

/-- `into_result` either hands back the chain unchanged or ends it. -/
theorem intoResult_eq_ok {self self' : Compat T} {threshold : ErrorThreshold}
    (h : self.intoResult threshold = .ok self') : self' = self := by
  unfold intoResult at h
  split at h <;> (try split at h) <;> first | exact (Except.ok.inj h).symm | cases h

/-- An `into_result` that returns `Ok` was not called on a runtime error. -/
theorem last_ne_runtimeError_of_intoResult_eq_ok {self self' : Compat T}
    {threshold : ErrorThreshold} (h : self.intoResult threshold = .ok self') (e : Error) :
    self.last ≠ .RuntimeError e := by
  intro hl
  unfold intoResult at h
  simp only [hl, reduceCtorEq] at h

end Compat

/-- `RestrictionStatus`: the outcome of `restrict_self`. -/
inductive RestrictionStatus where
  /-- All requested restrictions are enforced. -/
  | FullyRestricted
  /-- Some requested restrictions are enforced, and some unexpected error may have happened. -/
  | PartiallyRestricted (error : Option Error)
  /-- Contains an error if `restrict_self` failed, or `None` if the build chain is
      incompatible with the running system. -/
  | Unrestricted (error : Option Error)
deriving DecidableEq, Repr

/-- `RestrictionStatus::into_result`: it is not an error to run on a system not
    supporting Landlock. -/
def RestrictionStatus.intoResult : RestrictionStatus → Except Error Unit
  | .FullyRestricted => .ok ()
  | .PartiallyRestricted err => err.elim (.ok ()) .error
  | .Unrestricted err => err.elim (.ok ()) .error

end Landlock
