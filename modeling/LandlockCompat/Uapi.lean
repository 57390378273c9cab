/-
  LandlockCompat.Uapi

  The syscall boundary of the crate: the `uapi` attribute structs and flags,
  the `AccessFs` bitflags of `lib.rs`, `std::io::Error` as far as the crate
  builds it, and a kernel that answers every system call.

  The kernel is the crate's one external collaborator.  It answers a call as a
  function of the calls issued before it (with their answers), so every pattern
  of successes and failures over a run is some `Kernel`.  Each call is pushed
  on `trace` with its answer: the guarantees about the arguments the crate
  passes (no `EINVAL` from `landlock_add_rule`) are statements about `trace`.
-/

namespace Landlock

-- ============================================================================
-- `uapi` constants
-- ============================================================================

/-! Modelled from the spec: the `uapi` bindings are not part of the source.
    Each access right is one named bit, at the position the kernel's Landlock
    header gives it; the remaining constants are that header's and `libc`'s. -/

def LANDLOCK_ACCESS_FS_EXECUTE : UInt64 := 0x1
def LANDLOCK_ACCESS_FS_WRITE_FILE : UInt64 := 0x2
def LANDLOCK_ACCESS_FS_READ_FILE : UInt64 := 0x4
def LANDLOCK_ACCESS_FS_READ_DIR : UInt64 := 0x8
def LANDLOCK_ACCESS_FS_REMOVE_DIR : UInt64 := 0x10
def LANDLOCK_ACCESS_FS_REMOVE_FILE : UInt64 := 0x20
def LANDLOCK_ACCESS_FS_MAKE_CHAR : UInt64 := 0x40
def LANDLOCK_ACCESS_FS_MAKE_DIR : UInt64 := 0x80
def LANDLOCK_ACCESS_FS_MAKE_REG : UInt64 := 0x100
def LANDLOCK_ACCESS_FS_MAKE_SOCK : UInt64 := 0x200
def LANDLOCK_ACCESS_FS_MAKE_FIFO : UInt64 := 0x400
def LANDLOCK_ACCESS_FS_MAKE_BLOCK : UInt64 := 0x800
def LANDLOCK_ACCESS_FS_MAKE_SYM : UInt64 := 0x1000

/-- `LANDLOCK_CREATE_RULESET_VERSION`: asks `landlock_create_ruleset` for the ABI version. -/
def LANDLOCK_CREATE_RULESET_VERSION : UInt32 := 0x1

/-- `landlock_rule_type_LANDLOCK_RULE_PATH_BENEATH`. -/
def LANDLOCK_RULE_PATH_BENEATH : Nat := 1

/-- `libc::PR_SET_NO_NEW_PRIVS`. -/
def PR_SET_NO_NEW_PRIVS : Int := 38

/-- `libc::ENOSYS`: the kernel is built without Landlock. -/
def ENOSYS : Int := 38

/-- `libc::EOPNOTSUPP`: Landlock is built in but disabled at boot. -/
def EOPNOTSUPP : Int := 95

-- ============================================================================
-- `AccessFs`
-- ============================================================================

/-- The bits of every flag the `bitflags!` block of `AccessFs` declares. -/
def AccessFs.allBits : UInt64 :=
  LANDLOCK_ACCESS_FS_EXECUTE ||| LANDLOCK_ACCESS_FS_WRITE_FILE |||
  LANDLOCK_ACCESS_FS_READ_FILE ||| LANDLOCK_ACCESS_FS_READ_DIR |||
  LANDLOCK_ACCESS_FS_REMOVE_DIR ||| LANDLOCK_ACCESS_FS_REMOVE_FILE |||
  LANDLOCK_ACCESS_FS_MAKE_CHAR ||| LANDLOCK_ACCESS_FS_MAKE_DIR |||
  LANDLOCK_ACCESS_FS_MAKE_REG ||| LANDLOCK_ACCESS_FS_MAKE_SOCK |||
  LANDLOCK_ACCESS_FS_MAKE_FIFO ||| LANDLOCK_ACCESS_FS_MAKE_BLOCK |||
  LANDLOCK_ACCESS_FS_MAKE_SYM

/-- `AccessFs`, a `bitflags!` set over `u64`: its `bits` hold declared flags only,
    as every safe constructor of the set guarantees. -/
structure AccessFs where
  bits : UInt64
  bits_subset : bits &&& ~~~AccessFs.allBits = 0
deriving DecidableEq

/-- `AccessFs::all()`. -/
def AccessFs.all : AccessFs := ⟨AccessFs.allBits, rfl⟩

/-- `AccessFs::EXECUTE`. -/
def AccessFs.EXECUTE : AccessFs := ⟨LANDLOCK_ACCESS_FS_EXECUTE, rfl⟩

-- ============================================================================
-- `std::io::Error`
-- ============================================================================

/-- `std::io::ErrorKind`, as far as the crate uses it. -/
inductive ErrorKind where
  | InvalidData
deriving DecidableEq, Repr

/-- `std::io::Error`: an OS error code, or one the crate builds with `Error::new`. -/
inductive Error where
  | Os (code : Int)
  | Custom (kind : ErrorKind) (msg : String)
deriving DecidableEq, Repr

-- ============================================================================
-- System calls and the kernel
-- ============================================================================

/-- `struct landlock_ruleset_attr`. -/
structure LandlockRulesetAttr where
  handledAccessFs : UInt64
deriving DecidableEq, Repr

/-- `struct landlock_path_beneath_attr`. -/
structure LandlockPathBeneathAttr where
  allowedAccess : UInt64
  parentFd : Int
deriving DecidableEq, Repr

/-- A system call with the arguments the kernel sees; a pointer argument is the
    struct it points to, `none` for a null pointer. -/
inductive Syscall where
  | landlockCreateRuleset (attr : Option LandlockRulesetAttr) (size : Nat) (flags : UInt32)
  | landlockAddRule (rulesetFd : Int) (ruleType : Nat) (ruleAttr : LandlockPathBeneathAttr)
      (flags : UInt32)
  | landlockRestrictSelf (rulesetFd : Int) (flags : UInt32)
  | prctl (option : Int) (arg2 arg3 arg4 arg5 : Nat)
deriving DecidableEq, Repr

/-- What a system call leaves behind: its return value and the `errno` it set. -/
structure SysResult where
  ret : Int
  errno : Int
deriving DecidableEq, Repr

/-- `Error::last_os_error()` read right after the call that produced `r`. -/
def Error.lastOsError (r : SysResult) : Error := .Os r.errno

/-- The running kernel: its answer to a call given the calls answered before it
    (most recent first), and the calls answered so far. -/
structure Kernel where
  respond : List (Syscall × SysResult) → Syscall → SysResult
  trace : List (Syscall × SysResult)

/-- Issue one system call. -/
def Kernel.call (k : Kernel) (c : Syscall) : SysResult × Kernel :=
  (k.respond k.trace c, { k with trace := (c, k.respond k.trace c) :: k.trace })

@[simp] theorem Kernel.call_fst (k : Kernel) (c : Syscall) :
    (k.call c).1 = k.respond k.trace c := rfl

@[simp] theorem Kernel.call_respond (k : Kernel) (c : Syscall) :
    (k.call c).2.respond = k.respond := rfl

@[simp] theorem Kernel.call_trace (k : Kernel) (c : Syscall) :
    (k.call c).2.trace = (c, k.respond k.trace c) :: k.trace := rfl

/-- How the crate reads an answer: `landlock_create_ruleset` failed on a negative
    return (a descriptor otherwise), every other call on a non-zero one. -/
def Syscall.failed : Syscall → SysResult → Bool
  | .landlockCreateRuleset .., r => decide (r.ret < 0)
  | _, r => decide (r.ret ≠ 0)

/-- `k'` is `k` after exactly one more system call, which failed, and `e` is the
    `Error::last_os_error()` read right after it. -/
def Kernel.FailedWith (k k' : Kernel) (e : Error) : Prop :=
  ∃ sc r, k'.trace = (sc, r) :: k.trace ∧ sc.failed r = true ∧ e = .lastOsError r

theorem Kernel.not_failedWith_self {k k' : Kernel} (h : k'.trace = k.trace) (e : Error) :
    ¬ k.FailedWith k' e := by
  rintro ⟨sc, r, htr, -⟩
  exact List.cons_ne_self _ _ (htr.symm.trans h)

theorem Kernel.failedWith_iff {k k' : Kernel} {sc : Syscall} {r : SysResult}
    (h : k'.trace = (sc, r) :: k.trace) (e : Error) :
    k.FailedWith k' e ↔ sc.failed r = true ∧ e = .lastOsError r := by
  refine ⟨fun ⟨sc', r', htr, hf⟩ => ?_, fun hf => ⟨sc, r, h, hf⟩⟩
  obtain ⟨rfl, rfl⟩ := Prod.mk.inj (List.cons.inj (h.symm.trans htr)).1
  exact hf

/-- The Landlock system calls. -/
def Syscall.IsLandlock : Syscall → Prop
  | .prctl .. => False
  | _ => True

/-- A kernel without Landlock: every Landlock call fails, with `ENOSYS` (not built
    in) or `EOPNOTSUPP` (disabled at boot). -/
def Kernel.NoLandlock (k : Kernel) : Prop :=
  ∀ h c, c.IsLandlock →
    (k.respond h c).ret < 0 ∧ ((k.respond h c).errno = ENOSYS ∨ (k.respond h c).errno = EOPNOTSUPP)

/-- A kernel built without Landlock, whose `prctl` succeeds. -/
def Kernel.withoutLandlock : Kernel where
  respond _ c :=
    match c with
    | .prctl .. => ⟨0, 0⟩
    | _ => ⟨-1, ENOSYS⟩
  trace := []

/-- A kernel with Landlock that grants every call; rulesets get descriptor 3. -/
def Kernel.withLandlock : Kernel where
  respond _ c :=
    match c with
    | .landlockCreateRuleset .. => ⟨3, 0⟩
    | _ => ⟨0, 0⟩
  trace := []

theorem Kernel.withoutLandlock_noLandlock : Kernel.withoutLandlock.NoLandlock := by
  intro h c hc
  cases c <;> simp_all [Syscall.IsLandlock, withoutLandlock, ENOSYS]

end Landlock
