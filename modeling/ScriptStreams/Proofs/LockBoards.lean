import Mathlib.Algebra.Ring.Nat
import ScriptStreams.Lock.Board
import ScriptStreams.Proofs.Registry
/-!
# Boards of locks

A board of locks is fair when each lock has at most one guard and is locked just when it has one
(`LockBoard.Fair`); guards that take free locks, are dropped, put away for a window or brought back keep it
so. What is done through guards is written down beside the board (`LockDeed`), and windows and values are
counted from that without the counters of the locks: the counters always agree (`LockDeed.Counts`).
-/
namespace ScriptStreams

/-! ## The board -/

namespace LockBoard

variable {b : LockBoard} {guard g : GuardName} {lock l : Nat}

/-- Guards have distinct names, a lock has at most one, and it is locked just when it has one. -/
structure Fair (b : LockBoard) : Prop where
  distinct : b.guards.Distinct
  single : ∀ g g' l, b.guards.get? g = some l → b.guards.get? g' = some l → g = g'
  locked_iff : ∀ l, b.isLocked l = true ↔ ∃ g, b.guards.get? g = some l

theorem length_modify (b : LockBoard) (lock : Nat) (f : RuntimeLock → RuntimeLock) :
    (b.modify lock f).locks.length = b.locks.length := List.length_modify _ _ _

theorem getElem?_modify (b : LockBoard) (lock l : Nat) (f : RuntimeLock → RuntimeLock) :
    (b.modify lock f).locks[l]? = if lock = l then b.locks[l]?.map f else b.locks[l]? := by
  rw [modify, List.getElem?_modify]
  by_cases h : lock = l <;> simp [h]

theorem isLocked_modify (b : LockBoard) (lock l : Nat) (f : RuntimeLock → RuntimeLock) :
    (b.modify lock f).isLocked l =
      if lock = l then (b.locks[l]?.map fun x => (f x).locked).getD false else b.isLocked l := by
  unfold isLocked
  rw [getElem?_modify]
  split <;> simp [Function.comp_def]

theorem Fair.lt_length (fair : b.Fair) (held : b.guards.get? g = some l) : l < b.locks.length := by
  have locked := (fair.locked_iff l).2 ⟨g, held⟩
  by_contra outside
  simp [isLocked, List.getElem?_eq_none (Nat.not_lt.1 outside)] at locked

theorem isLocked_acquire (inside : lock < b.locks.length) :
    (b.modify lock RuntimeLock.acquire).isLocked l = if lock = l then true else b.isLocked l := by
  rw [isLocked_modify]
  split
  · next same =>
    subst same
    simp [inside, RuntimeLock.acquire]
  · rfl

theorem isLocked_keep {f : RuntimeLock → RuntimeLock} (keeps : ∀ x, (f x).locked = x.locked) :
    (b.modify lock f).isLocked l = b.isLocked l := by
  rw [isLocked_modify]
  split
  · simp only [keeps]
    rfl
  · rfl

theorem isLocked_free {f : RuntimeLock → RuntimeLock} (frees : ∀ x, (f x).locked = false) :
    (b.modify lock f).isLocked l = if lock = l then false else b.isLocked l := by
  rw [isLocked_modify]
  split
  · next same =>
    cases b.locks[l]? <;> simp [frees]
  · rfl

theorem Fair.congr {b' : LockBoard} (fair : b.Fair) (guards : b'.guards = b.guards)
    (locked : ∀ l, b'.isLocked l = b.isLocked l) : b'.Fair :=
  ⟨guards ▸ fair.distinct, guards ▸ fair.single, fun l => by rw [locked, guards]; exact fair.locked_iff l⟩

/-- A lock was freed, and no guard has it any more. -/
theorem Fair.freed {b' : LockBoard} (fair : b.Fair) (distinct : b'.guards.Distinct)
    (guards : ∀ g, b'.guards.get? g = if b.guards.get? g = some lock then none else b.guards.get? g)
    (locked : ∀ l, b'.isLocked l = if lock = l then false else b.isLocked l) : b'.Fair where
  distinct := distinct
  single g g' l h h' := by
    rw [guards] at h h'
    split at h <;> split at h' <;> first | exact fair.single g g' l h h' | contradiction
  locked_iff l := by
    simp only [locked, guards]
    by_cases same : lock = l
    · subst same
      simp
    · rw [if_neg same, fair.locked_iff]
      refine exists_congr fun g => ?_
      split
      · next held => simpa [held] using same
      · rfl

/-- Taking out one guard and freeing its lock. -/
theorem Fair.without (fair : b.Fair) (held : b.guards.get? guard = some lock) {f : RuntimeLock → RuntimeLock}
    (frees : ∀ x, (f x).locked = false) : Fair { b.modify lock f with guards := b.guards.erase guard } := by
  refine fair.freed (fair.distinct.erase guard) (fun g => ?_) fun l => isLocked_free frees
  show (b.guards.erase guard).get? g = _
  rw [Keyed.get?_erase]
  by_cases same : guard = g
  · subst same
    rw [if_pos rfl, if_pos held]
  · have another : b.guards.get? g ≠ some lock := fun h => same (fair.single guard g lock held h)
    rw [if_neg same, if_neg another]

theorem Fair.release (fair : b.Fair) (guard : GuardName) : (b.release guard).Fair := by
  unfold LockBoard.release
  split
  · next lock held => exact fair.without held fun _ => rfl
  · exact fair

theorem distinct_release (hd : b.guards.Distinct) (guard : GuardName) : (b.release guard).guards.Distinct := by
  unfold LockBoard.release
  split
  · exact hd.erase guard
  · exact hd

theorem get?_release (b : LockBoard) (guard g : GuardName) :
    (b.release guard).guards.get? g = if guard = g then none else b.guards.get? g := by
  unfold LockBoard.release
  split
  · exact Keyed.get?_erase _ _ _
  · next none_held =>
    split
    · next same => exact same ▸ none_held
    · rfl

theorem isLocked_release (b : LockBoard) (guard : GuardName) (l : Nat) :
    (b.release guard).isLocked l = if b.guards.get? guard = some l then false else b.isLocked l := by
  unfold LockBoard.release
  split
  · next lock held =>
    show (b.modify lock RuntimeLock.release).isLocked l = _
    rw [isLocked_free fun _ => rfl, held]
    simp
  · next none_held => simp [none_held]

theorem get?_take (b : LockBoard) (guard : GuardName) (lock : Nat) (g : GuardName) :
    (b.take guard lock).guards.get? g = if guard = g then some lock else b.guards.get? g := by
  show Keyed.get? (Keyed.set ((b.modify lock RuntimeLock.acquire).release guard).guards guard lock) g = _
  rw [Keyed.get?_set, get?_release]
  split <;> rfl

theorem Fair.unheld (fair : b.Fair) (free : b.isLocked lock = false) (g : GuardName) : b.guards.get? g ≠ some lock := by
  intro held
  rw [(fair.locked_iff lock).2 ⟨g, held⟩] at free
  cases free

/-- A free lock was locked, for a guard of a new name. -/
theorem Fair.taken {b' : LockBoard} (fair : b.Fair) (distinct : b'.guards.Distinct) (free : b.isLocked lock = false)
    (unnamed : b.guards.get? guard = none)
    (guards : ∀ g, b'.guards.get? g = if guard = g then some lock else b.guards.get? g)
    (locked : ∀ l, b'.isLocked l = if lock = l then true else b.isLocked l) : b'.Fair where
  distinct := distinct
  single g g' l h h' := by
    rw [guards] at h h'
    split at h <;> split at h'
    · next same same' => exact same.symm.trans same'
    · cases h
      exact absurd h' (fair.unheld free g')
    · cases h'
      exact absurd h (fair.unheld free g)
    · exact fair.single g g' l h h'
  locked_iff l := by
    simp only [locked, guards]
    by_cases same : lock = l
    · simp only [same, if_true, true_iff]
      exact ⟨guard, by simp⟩
    · rw [if_neg same, fair.locked_iff]
      refine exists_congr fun g => ?_
      split
      · next named => simp [same, ← named, unnamed]
      · rfl

/-- A guard that takes a free lock has it, and what it held before is free. -/
theorem Fair.take (fair : b.Fair) (inside : lock < b.locks.length) (free : b.isLocked lock = false)
    (guard : GuardName) : (b.take guard lock).Fair := by
  have distinct : ((b.modify lock RuntimeLock.acquire).release guard).guards.Distinct :=
    distinct_release (b := b.modify lock RuntimeLock.acquire) fair.distinct guard
  have other : b.guards.get? guard ≠ some lock := fair.unheld free guard
  have unlocked : (b.release guard).isLocked lock = false := by rw [isLocked_release, if_neg other, free]
  have unnamed : (b.release guard).guards.get? guard = none := by rw [get?_release, if_pos rfl]
  -- whether the old lock is freed before or after the new one is taken makes no difference
  refine (fair.release guard).taken (distinct.set guard lock) unlocked unnamed (fun g => ?_) fun l => ?_
  · rw [get?_take, get?_release]
    split <;> rfl
  · show ((b.modify lock RuntimeLock.acquire).release guard).isLocked l = _
    rw [isLocked_release, isLocked_release, isLocked_acquire inside]
    show (if b.guards.get? guard = some l then false else _) = _
    by_cases same : lock = l
    · subst same
      simp [other]
    · simp [same]

/-- Giving a lock back for good, whoever has it. -/
theorem Fair.releaseAll (fair : b.Fair) (lock : Nat) : (b.releaseAll lock).Fair :=
  fair.freed (fair.distinct.sublist (List.filter_sublist.map _))
    (fun g => Keyed.get?_filter_ne fair.distinct lock g) fun _ => isLocked_free fun _ => rfl

theorem Fair.enterWindow (fair : b.Fair) (held : b.guards.get? guard = some lock) : (b.enterWindow guard lock).Fair :=
  fair.without held fun _ => rfl

theorem Fair.leaveWindow (fair : b.Fair) (inside : lock < b.locks.length) (guard : GuardName) :
    (b.leaveWindow guard lock).Fair := by
  refine (fair.releaseAll lock).take ?_ ?_ guard
  · exact (length_modify b lock RuntimeLock.release).symm ▸ inside
  · show (b.modify lock RuntimeLock.release).isLocked lock = false
    rw [isLocked_free fun _ => rfl, if_pos rfl]

theorem make_keeps (b : LockBoard) (lock : Nat) (literal : Literal) :
    (b.make lock literal).2.2.guards = b.guards ∧ (b.make lock literal).2.2.locks.length = b.locks.length ∧
      ∀ l, (b.make lock literal).2.2.isLocked l = b.isLocked l := by
  unfold LockBoard.make
  split
  · exact ⟨rfl, length_modify _ _ _, fun l => isLocked_keep fun _ => rfl⟩
  · exact ⟨rfl, rfl, fun _ => rfl⟩

theorem make_bytes (inside : lock < b.locks.length) (data : Bytes) :
    (b.make lock (.bytes data)).1 = .bytes data := by
  simp only [LockBoard.make, List.getElem?_eq_getElem inside]
  rfl

theorem Fair.make (fair : b.Fair) (lock : Nat) (literal : Literal) : (b.make lock literal).2.2.Fair :=
  fair.congr (b.make_keeps lock literal).1 (b.make_keeps lock literal).2.2

/-- What is made between taking a free lock and giving it back. -/
def brief (b : LockBoard) (lock : Nat) (data : Bytes) : LockBoard :=
  ((b.modify lock RuntimeLock.acquire).make lock (.bytes data)).2.2.modify lock RuntimeLock.release

theorem Fair.brief (fair : b.Fair) (free : b.isLocked lock = false) (data : Bytes) : (b.brief lock data).Fair := by
  obtain ⟨guards, -, locked⟩ := (b.modify lock RuntimeLock.acquire).make_keeps lock (.bytes data)
  refine fair.congr guards fun l => ?_
  rw [LockBoard.brief, isLocked_free fun _ => rfl, locked, isLocked_modify]
  by_cases same : lock = l
  · rw [if_pos same, ← same, free]
  · rw [if_neg same, if_neg same]

/-! ### The number of locks -/

theorem length_release (b : LockBoard) (guard : GuardName) : (b.release guard).locks.length = b.locks.length := by
  unfold LockBoard.release
  split
  · exact length_modify _ _ _
  · rfl

theorem length_take (b : LockBoard) (guard : GuardName) (lock : Nat) :
    (b.take guard lock).locks.length = b.locks.length :=
  ((b.modify lock RuntimeLock.acquire).length_release guard).trans (length_modify _ _ _)

theorem length_leaveWindow (b : LockBoard) (guard : GuardName) (lock : Nat) :
    (b.leaveWindow guard lock).locks.length = b.locks.length :=
  ((b.releaseAll lock).length_take guard lock).trans (length_modify _ _ _)

theorem length_brief (b : LockBoard) (lock : Nat) (data : Bytes) :
    (b.brief lock data).locks.length = b.locks.length := by
  rw [brief, length_modify, (make_keeps _ _ _).2.1, length_modify]

end LockBoard

/-! ## What is done through the guards of a lock -/

inductive LockDeed where
  /-- A window was opened. -/
  | opened (lock : Nat)
  /-- A value was made. -/
  | made (lock : Nat) (value : Value)
  deriving DecidableEq

namespace LockDeed

/-- The payloads of the values that were made under a lock. -/
def payloads (deeds : List LockDeed) (lock : Nat) : List Nat :=
  deeds.filterMap fun
    | made l value => if l = lock then value.payload? else none
    | opened _ => none

/-- How many payloads there were under a lock, and how many bytes. -/
def heap (deeds : List LockDeed) (lock : Nat) : HeapStats :=
  ⟨(payloads deeds lock).length, (payloads deeds lock).sum⟩

theorem heap_opened (deeds : List LockDeed) (lock l : Nat) : heap (opened lock :: deeds) l = heap deeds l := rfl

theorem heap_made (deeds : List LockDeed) (lock l : Nat) (v : Value) :
    heap (made lock v :: deeds) l = if lock = l then (heap deeds l).charge v else heap deeds l := by
  unfold heap payloads HeapStats.charge HeapStats.record
  by_cases same : lock = l
  · cases found : v.payload? with
    | none => simp [same, found]
    | some n => simp [same, found, Nat.add_comm]
  · simp [same]

/-- The counters of each lock are what was done under it. -/
def Counts (deeds : List LockDeed) (b : LockBoard) : Prop :=
  ∀ (l : Nat) (x : RuntimeLock), b.locks[l]? = some x →
    x.windows = deeds.countP (· = opened l) ∧ x.heap = heap deeds l

variable {deeds : List LockDeed} {b : LockBoard} {lock : Nat}

theorem counts_new (n : Nat) : Counts [] (.new n) := by
  intro l x found
  have : x = {} := List.eq_of_mem_replicate (List.mem_of_getElem? found)
  subst this
  exact ⟨rfl, rfl⟩

/-- A change that spares the counters. -/
theorem Counts.modify (counts : Counts deeds b) {f : RuntimeLock → RuntimeLock}
    (keeps : ∀ x, (f x).windows = x.windows ∧ (f x).heap = x.heap) : Counts deeds (b.modify lock f) := by
  intro l x found
  rw [LockBoard.getElem?_modify] at found
  split at found
  · obtain ⟨y, before, rfl⟩ := Option.map_eq_some_iff.1 found
    rw [(keeps y).1, (keeps y).2]
    exact counts l y before
  · exact counts l x found

theorem Counts.acquire (counts : Counts deeds b) : Counts deeds (b.modify lock RuntimeLock.acquire) :=
  counts.modify fun _ => ⟨rfl, rfl⟩

theorem Counts.release (counts : Counts deeds b) (guard : GuardName) : Counts deeds (b.release guard) := by
  unfold LockBoard.release
  split
  · exact counts.modify fun _ => ⟨rfl, rfl⟩
  · exact counts

theorem Counts.take (counts : Counts deeds b) (guard : GuardName) (lock : Nat) : Counts deeds (b.take guard lock) :=
  counts.acquire.release guard

theorem Counts.leaveWindow (counts : Counts deeds b) (guard : GuardName) (lock : Nat) :
    Counts deeds (b.leaveWindow guard lock) :=
  Counts.take (b := b.releaseAll lock) (counts.modify (f := RuntimeLock.release) fun _ => ⟨rfl, rfl⟩) guard lock

theorem Counts.enterWindow (counts : Counts deeds b) (guard : GuardName) (lock : Nat) :
    Counts (opened lock :: deeds) (b.enterWindow guard lock) := by
  intro l x found
  change (b.modify lock RuntimeLock.openWindow).locks[l]? = some x at found
  rw [LockBoard.getElem?_modify] at found
  rw [List.countP_cons, heap_opened]
  split at found
  · next same =>
    obtain ⟨y, before, rfl⟩ := Option.map_eq_some_iff.1 found
    obtain ⟨windows, heap⟩ := counts l y before
    refine ⟨?_, heap⟩
    simp [RuntimeLock.openWindow, windows, same]
  · next other =>
    obtain ⟨windows, heap⟩ := counts l x found
    refine ⟨?_, heap⟩
    simp [windows, other]

theorem Counts.make (counts : Counts deeds b) (inside : lock < b.locks.length) (literal : Literal) :
    Counts (made lock (b.make lock literal).1 :: deeds) (b.make lock literal).2.2 := by
  intro l x found
  have here : b.locks[lock]? = some b.locks[lock] := List.getElem?_eq_getElem inside
  simp only [LockBoard.make, here] at found ⊢
  rw [LockBoard.getElem?_modify] at found
  rw [List.countP_cons_of_neg (by simp), heap_made]
  split at found
  · next same =>
    subst same
    rw [here] at found
    cases found
    obtain ⟨windows, heap⟩ := counts lock _ here
    exact ⟨windows, by rw [if_pos rfl, ← heap]; exact HeapStats.make_snd _ literal⟩
  · next other =>
    rw [if_neg other]
    exact counts l x found

/-- The statistics that go with a new value. -/
theorem Counts.heap_make (counts : Counts deeds b) (inside : lock < b.locks.length) (literal : Literal) :
    (b.make lock literal).2.1 = heap (made lock (b.make lock literal).1 :: deeds) lock := by
  have here : b.locks[lock]? = some b.locks[lock] := List.getElem?_eq_getElem inside
  have stored : (b.make lock literal).2.2.locks[lock]? =
      some { b.locks[lock] with heap := (b.make lock literal).2.1 } := by
    simp only [LockBoard.make, here]
    rw [LockBoard.getElem?_modify, if_pos rfl, here]
    rfl
  exact (counts.make inside literal lock _ stored).2

theorem Counts.brief (counts : Counts deeds b) (inside : lock < b.locks.length) (data : Bytes) :
    Counts (made lock (.bytes data) :: deeds) (b.brief lock data) := by
  have taken : lock < (b.modify lock RuntimeLock.acquire).locks.length := (b.length_modify lock _).symm ▸ inside
  have made := counts.acquire.make taken (.bytes data)
  rw [LockBoard.make_bytes taken] at made
  exact made.modify fun _ => ⟨rfl, rfl⟩

end LockDeed

/-! ## Steps -/

/-- What a step does other than by a window. -/
def LockStep.deeds (b : LockBoard) : LockStep → List LockDeed
  | briefly lock data => if lock < b.locks.length ∧ b.isLocked lock = false then [.made lock (.bytes data)] else []
  | make guard literal =>
    match b.guards.get? guard with
    | some lock => [.made lock (b.make lock literal).1]
    | none => []
  | _ => []

/-- The board is fair, its counters are right, and it has `n` locks. -/
structure LockBoard.Kept (n : Nat) (deeds : List LockDeed) (b : LockBoard) : Prop where
  fair : b.Fair
  counts : LockDeed.Counts deeds b
  length : b.locks.length = n

namespace LockBoard.Kept

variable {n : Nat} {deeds : List LockDeed} {b : LockBoard} {guard : GuardName} {lock : Nat}

theorem new (n : Nat) : Kept n [] (.new n) where
  fair := by
    refine ⟨Keyed.distinct_nil, fun g g' l h => ?_, fun l => ?_⟩
    · cases h
    · have unlocked : (LockBoard.new n).isLocked l = false := by
        simp only [isLocked, LockBoard.new, List.getElem?_replicate]
        split <;> rfl
      rw [unlocked]
      constructor
      · intro h
        cases h
      · rintro ⟨g, h⟩
        cases h
  counts := LockDeed.counts_new n
  length := List.length_replicate

theorem take (kept : Kept n deeds b) (inside : lock < b.locks.length) (free : b.isLocked lock = false)
    (guard : GuardName) : Kept n deeds (b.take guard lock) :=
  ⟨kept.fair.take inside free guard, kept.counts.take guard lock, (b.length_take guard lock).trans kept.length⟩

theorem enterWindow (kept : Kept n deeds b) (held : b.guards.get? guard = some lock) :
    Kept n (.opened lock :: deeds) (b.enterWindow guard lock) :=
  ⟨kept.fair.enterWindow held, kept.counts.enterWindow guard lock, (b.length_modify lock _).trans kept.length⟩

theorem leaveWindow (kept : Kept n deeds b) (inside : lock < n) (guard : GuardName) :
    Kept n deeds (b.leaveWindow guard lock) :=
  ⟨kept.fair.leaveWindow (kept.length.symm ▸ inside) guard, kept.counts.leaveWindow guard lock,
    (b.length_leaveWindow guard lock).trans kept.length⟩

/-- **A step that opens no window.** -/
theorem step (kept : Kept n deeds b) (step : LockStep)
    (plain : ∀ guard body, step = .allow guard body → b.guards.get? guard = none) :
    Kept n (step.deeds b ++ deeds) (b.step step).2 := by
  cases step with
  | acquire guard lock | tryAcquire guard lock =>
    show Kept n deeds _
    rw [LockBoard.step]
    split
    · exact kept
    · next inside =>
      split
      · exact kept
      · next free => exact kept.take (Nat.not_le.1 inside) (by simpa using free) guard
  | release guard =>
    exact ⟨kept.fair.release guard, kept.counts.release guard, (b.length_release guard).trans kept.length⟩
  | briefly lock data =>
    by_cases inside : lock < b.locks.length
    · have reached : ¬ lock ≥ b.locks.length := Nat.not_le.2 inside
      by_cases free : b.isLocked lock = false
      · simp only [LockBoard.step, LockStep.deeds, reached, inside, free, Bool.false_eq_true, and_self, if_true,
          if_false]
        exact ⟨kept.fair.brief free data, kept.counts.brief inside data, (b.length_brief lock data).trans kept.length⟩
      · have locked : b.isLocked lock = true := by simpa using free
        simpa [LockBoard.step, LockStep.deeds, reached, locked] using kept
    · have outside : lock ≥ b.locks.length := Nat.not_lt.1 inside
      simpa [LockBoard.step, LockStep.deeds, outside, inside] using kept
  | make guard literal =>
    cases held : b.guards.get? guard with
    | some lock =>
      simp only [LockBoard.step, LockStep.deeds, held]
      exact ⟨kept.fair.make lock literal, kept.counts.make (kept.fair.lt_length held) literal,
        (b.make_keeps lock literal).2.1.trans kept.length⟩
    | none => simpa [LockBoard.step, LockStep.deeds, held] using kept
  | guards guard lock | describeGuard guard | describeLock lock =>
    show Kept n deeds _
    rw [LockBoard.step]
    split <;> exact kept
  | observe | unwind => exact kept
  | allow guard body =>
    rw [LockBoard.step, plain guard body rfl]
    exact kept

end LockBoard.Kept

end ScriptStreams
