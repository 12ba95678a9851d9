import ScriptStreams.Keyed
import ScriptStreams.Lock
/-!
# Scripts of lock steps

Several runtime locks, the guards that hold them under names, and scripts of steps on them
(`LockStep`). A window (`LockStep.allow`) runs a script of its own while its guard is put away; when that
script ends, by its last step or by unwinding, the guards of that lock taken inside are released
and the guard holds the lock again.
-/
namespace ScriptStreams

abbrev GuardName := String

/-- The locks, and the lock that each active guard holds. -/
structure LockBoard where
  locks : List RuntimeLock
  guards : Keyed GuardName Nat := []

inductive LockStep where
  | acquire (guard : GuardName) (lock : Nat)
  /-- Take the lock if it is free (`RuntimeLock::try_acquire`). -/
  | tryAcquire (guard : GuardName) (lock : Nat)
  | release (guard : GuardName)
  /-- Take the lock, make one byte string, give the lock back (`RuntimeLock::with`). -/
  | briefly (lock : Nat) (data : Bytes)
  | make (guard : GuardName) (literal : Literal)
  /-- Whether the guard is one of the lock (`RuntimeGuard::guards`). -/
  | guards (guard : GuardName) (lock : Nat)
  | describeGuard (guard : GuardName)
  | describeLock (lock : Nat)
  | observe
  /-- Run a script in a window (`RuntimeGuard::allow_threads`). -/
  | allow (guard : GuardName) (body : List LockStep)
  /-- Leave the innermost window by unwinding. -/
  | unwind

/-- What a step on locks answers. -/
inductive LockAnswer where
  | done
  | flag (b : Bool)
  | wouldBlock
  | brief (locked : Bool) (heap : HeapStats)
  | made (value : Value) (heap : HeapStats)
  | text (s : String)
  /-- Each inner answer with all locks after it, and whether the script unwound. -/
  | window (inner : List (LockAnswer × List RuntimeLock)) (unwound : Bool)
  /-- There is no such guard or lock. -/
  | unknown

namespace LockBoard

/-- `n` free locks and no guard. -/
def new (n : Nat) : LockBoard := { locks := List.replicate n {} }

def isLocked (b : LockBoard) (lock : Nat) : Bool := (b.locks[lock]?.map (·.locked)).getD false

def modify (b : LockBoard) (lock : Nat) (f : RuntimeLock → RuntimeLock) : LockBoard :=
  { b with locks := b.locks.modify lock f }

/-- Drop a guard: its lock is free again. -/
def release (b : LockBoard) (guard : GuardName) : LockBoard :=
  match b.guards.get? guard with
  | some lock => { b.modify lock RuntimeLock.release with guards := b.guards.erase guard }
  | none => b

/-- Take a free lock; a guard that had the name is dropped (`RuntimeLock::acquire`). -/
def take (b : LockBoard) (guard : GuardName) (lock : Nat) : LockBoard :=
  let b := (b.modify lock RuntimeLock.acquire).release guard
  { b with guards := b.guards.set guard lock }

/-- Drop every guard of a lock. -/
def releaseAll (b : LockBoard) (lock : Nat) : LockBoard :=
  { b.modify lock RuntimeLock.release with guards := b.guards.filter (·.2 ≠ lock) }

/-- Put a guard away and free its lock for one call (`RuntimeGuard::allow_threads`). -/
def enterWindow (b : LockBoard) (guard : GuardName) (lock : Nat) : LockBoard :=
  { b.modify lock RuntimeLock.openWindow with guards := b.guards.erase guard }

/-- Drop what was taken inside and let the guard hold its lock again. -/
def leaveWindow (b : LockBoard) (guard : GuardName) (lock : Nat) : LockBoard :=
  (b.releaseAll lock).take guard lock

def make (b : LockBoard) (lock : Nat) (literal : Literal) : Value × HeapStats × LockBoard :=
  match b.locks[lock]? with
  | some l =>
    let (value, heap) := l.heap.make literal
    (value, heap, b.modify lock fun l => { l with heap := heap })
  | none => (.none, {}, b)

mutual

def step (b : LockBoard) : LockStep → LockAnswer × LockBoard
  | .acquire guard lock =>
    if lock ≥ b.locks.length then (.unknown, b)
    else if b.isLocked lock then (.wouldBlock, b)
    else (.flag true, b.take guard lock)
  | .tryAcquire guard lock =>
    if lock ≥ b.locks.length then (.unknown, b)
    else if b.isLocked lock then (.flag false, b)
    else (.flag true, b.take guard lock)
  | .release guard => (.flag (b.guards.contains guard), b.release guard)
  | .briefly lock data =>
    if lock ≥ b.locks.length then (.unknown, b)
    else if b.isLocked lock then (.wouldBlock, b)
    else
      let (_, heap, b) := (b.modify lock RuntimeLock.acquire).make lock (.bytes data)
      (.brief (b.isLocked lock) heap, b.modify lock RuntimeLock.release)
  | .make guard literal =>
    match b.guards.get? guard with
    | some lock =>
      let (value, heap, b) := b.make lock literal
      (.made value heap, b)
    | none => (.unknown, b)
  | .guards guard lock =>
    match b.guards.get? guard with
    | some held => (.flag (held = lock), b)
    | none => (.unknown, b)
  | .describeGuard guard =>
    match (b.guards.get? guard).bind (b.locks[·]?) with
    | some l => (.text l.describeGuard, b)
    | none => (.unknown, b)
  | .describeLock lock =>
    match b.locks[lock]? with
    | some l => (.text l.describe, b)
    | none => (.unknown, b)
  | .observe => (.done, b)
  | .allow guard body =>
    match b.guards.get? guard with
    | some lock =>
      let (inner, unwound, b) := run (b.enterWindow guard lock) body
      (.window inner unwound, b.leaveWindow guard lock)
    | none => (.unknown, b)
  | .unwind => (.done, b)

/-- Run a script: every answer with the locks after it, whether it unwound, and the end. -/
def run (b : LockBoard) : List LockStep → List (LockAnswer × List RuntimeLock) × Bool × LockBoard
  | [] => ([], false, b)
  | .unwind :: _ => ([], true, b)
  | s :: rest =>
    let (answer, b) := step b s
    let (answers, unwound, b') := run b rest
    ((answer, b.locks) :: answers, unwound, b')

end

end LockBoard
end ScriptStreams
