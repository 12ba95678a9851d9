import ScriptStreams.Proofs.LockBoards
/-!
# Locks and nested windows

A script of lock steps is run here step by step, also inside windows (`LockRun`): the windows that are open stand
in a row, the innermost first, each with the guard that was put away for it and with what is to be
done after it. A window ends when its script does or when it unwinds. At every point each lock is held by at
most one guard and is locked just when there is one, and its counters tell how many windows were opened and what was
made through its guards (`LockRun.nested_windows`).
-/
namespace ScriptStreams

/-- A window that is open: the guard that was put away for it, its lock, and the steps after the window. -/
structure OpenWindow where
  guard : GuardName
  lock : Nat
  rest : List LockStep

structure LockRun where
  board : LockBoard
  /-- What is left of the innermost script. -/
  rest : List LockStep
  /-- The open windows, the innermost first. -/
  windows : List OpenWindow := []
  /-- What was done, the latest first. -/
  deeds : List LockDeed := []

namespace LockRun

def start (n : Nat) (script : List LockStep) : LockRun := { board := .new n, rest := script }

/-- Nothing more is to be done in the innermost script, or it unwinds. -/
def AtEnd (rest : List LockStep) : Prop := rest = [] ∨ ∃ others, rest = .unwind :: others

/-- Go into a window of `guard`, which holds `lock`. -/
def enter (s : LockRun) (guard : GuardName) (lock : Nat) (body rest : List LockStep) : LockRun where
  board := s.board.enterWindow guard lock
  rest := body
  windows := ⟨guard, lock, rest⟩ :: s.windows
  deeds := .opened lock :: s.deeds

/-- Come back from a window. -/
def leave (s : LockRun) (w : OpenWindow) (others : List OpenWindow) : LockRun :=
  { s with board := s.board.leaveWindow w.guard w.lock, rest := w.rest, windows := others }

/-- The next point of the run, if it is not over. -/
def next (s : LockRun) : Option LockRun :=
  match s.rest with
  | [] | .unwind :: _ =>
    match s.windows with
    | [] => none
    | w :: others => some (s.leave w others)
  | .allow guard body :: rest =>
    match s.board.guards.get? guard with
    | some lock => some (s.enter guard lock body rest)
    | none => some { s with rest := rest }
  | step :: rest => some { s with board := (s.board.step step).2, rest := rest, deeds := step.deeds s.board ++ s.deeds }

/-- The point that is reached after `k` steps, or where the run is over before that. -/
def after (s : LockRun) : Nat → LockRun
  | 0 => s
  | k + 1 =>
    match s.next with
    | some s' => s'.after k
    | none => s

theorem next_of_atEnd {s : LockRun} (ended : AtEnd s.rest) :
    s.next = match s.windows with
      | [] => none
      | w :: others => some (s.leave w others) := by
  unfold next
  rcases ended with none_left | ⟨others, unwinds⟩
  · rw [none_left]
  · rw [unwinds]

theorem next_of_allow {s : LockRun} {guard : GuardName} {lock : Nat} {body rest : List LockStep}
    (first : s.rest = .allow guard body :: rest) (held : s.board.guards.get? guard = some lock) :
    s.next = some (s.enter guard lock body rest) := by
  simp only [next, first, held]

/-- The run is over, or it comes back from a window, goes into one, or makes any other step. -/
theorem next_cases {s s' : LockRun} (moved : s.next = some s') :
    (∃ w others, s.windows = w :: others ∧ AtEnd s.rest ∧ s' = s.leave w others) ∨
      (∃ guard lock body rest, s.rest = .allow guard body :: rest ∧ s.board.guards.get? guard = some lock ∧
        s' = s.enter guard lock body rest) ∨
      ∃ step rest, s.rest = step :: rest ∧ (∀ guard body, step = .allow guard body → s.board.guards.get? guard = none) ∧
        s' = { s with board := (s.board.step step).2, rest := rest, deeds := step.deeds s.board ++ s.deeds } := by
  unfold next at moved
  split at moved
  · next ended =>
    split at moved
    · cases moved
    · next w others open_ =>
      cases moved
      exact .inl ⟨w, others, open_, .inl ended, rfl⟩
  · next others' ended =>
    split at moved
    · cases moved
    · next w others open_ =>
      cases moved
      exact .inl ⟨w, others, open_, .inr ⟨others', ended⟩, rfl⟩
  · next guard body rest first =>
    split at moved
    · next lock held =>
      cases moved
      exact .inr (.inl ⟨guard, lock, body, rest, first, held, rfl⟩)
    · next unheld =>
      cases moved
      refine .inr (.inr ⟨_, rest, first, ?_, ?_⟩)
      · rintro g b ⟨⟩
        exact unheld
      · rw [LockBoard.step, unheld]
        rfl
  · next step rest first other plain =>
    cases moved
    exact .inr (.inr ⟨step, rest, plain, fun guard body same => absurd same (other guard body), rfl⟩)

/-! ## What every point of a run has -/

/-- The board is as it should be, and each open window is one of a lock of the board. -/
structure Sound (n : Nat) (s : LockRun) : Prop where
  board : LockBoard.Kept n s.deeds s.board
  inside : ∀ w ∈ s.windows, w.lock < n

theorem sound_start (n : Nat) (script : List LockStep) : Sound n (start n script) where
  board := .new n
  inside := by simp [start]

/-- **Every move keeps this.** -/
theorem Sound.next {n : Nat} {s s' : LockRun} (sound : s.Sound n) (moved : s.next = some s') : s'.Sound n := by
  rcases next_cases moved with ⟨w, others, isOpen, -, rfl⟩ | ⟨guard, lock, body, rest, -, held, rfl⟩ |
    ⟨step, rest, -, plain, rfl⟩
  · refine ⟨sound.board.leaveWindow (sound.inside w (by simp [isOpen])) w.guard, fun w' mem => ?_⟩
    exact sound.inside w' (isOpen ▸ List.mem_cons_of_mem _ mem)
  · refine ⟨sound.board.enterWindow held, fun w mem => ?_⟩
    rcases List.mem_cons.1 mem with rfl | mem
    · exact sound.board.length ▸ sound.board.fair.lt_length held
    · exact sound.inside w mem
  · exact ⟨sound.board.step step plain, sound.inside⟩

theorem Sound.after {n : Nat} {s : LockRun} (sound : s.Sound n) (k : Nat) : (s.after k).Sound n := by
  induction k generalizing s with
  | zero => exact sound
  | succ k ih =>
    unfold LockRun.after
    split
    · next s' moved => exact ih (sound.next moved)
    · exact sound

/-! ## The run as a whole -/

/-- The run comes from one point to another. -/
def Leads (s t : LockRun) : Prop := ∃ k, s.after k = t

theorem Leads.refl (s : LockRun) : s.Leads s := ⟨0, rfl⟩

theorem Leads.first {s s' t : LockRun} (moved : s.next = some s') (later : s'.Leads t) : s.Leads t := by
  obtain ⟨k, reached⟩ := later
  refine ⟨k + 1, ?_⟩
  rw [LockRun.after, moved]
  exact reached

theorem Leads.trans {s t u : LockRun} (first : s.Leads t) (second : t.Leads u) : s.Leads u := by
  obtain ⟨k, rfl⟩ := first
  induction k generalizing s with
  | zero => exact second
  | succ k ih =>
    cases moved : s.next with
    | none =>
      rw [LockRun.after, moved] at second
      exact second
    | some s' =>
      rw [LockRun.after, moved] at second
      exact .first moved (ih second)

/-- A script ends, by its last step or by unwinding, with the board that `LockBoard.run` has, and in the windows in
which it began. -/
theorem leads_run (b : LockBoard) (script : List LockStep) (windows : List OpenWindow) (deeds : List LockDeed) :
    ∃ rest deeds', AtEnd rest ∧
      (⟨b, script, windows, deeds⟩ : LockRun).Leads ⟨(b.run script).2.2, rest, windows, deeds'⟩ := by
  match script with
  | [] => exact ⟨[], deeds, .inl rfl, .refl _⟩
  | step :: rest =>
    cases step with
    | unwind => exact ⟨_, deeds, .inr ⟨rest, rfl⟩, by rw [LockBoard.run]; exact .refl _⟩
    | allow guard body =>
      cases held : b.guards.get? guard with
      | none =>
        obtain ⟨others, deeds', ended, later⟩ := leads_run b rest windows deeds
        have moved : (⟨b, .allow guard body :: rest, windows, deeds⟩ : LockRun).next =
            some ⟨b, rest, windows, deeds⟩ := by
          simp only [next, held]
        refine ⟨others, deeds', ended, .first moved ?_⟩
        rw [LockBoard.run, LockBoard.step, held]
        · exact later
        · simp
      | some lock =>
        -- the body runs in the window, which it leaves in either way
        obtain ⟨inner, deeds₁, bodyEnded, within⟩ :=
          leads_run (b.enterWindow guard lock) body (⟨guard, lock, rest⟩ :: windows) (.opened lock :: deeds)
        let b₁ := ((b.enterWindow guard lock).run body).2.2
        have left := next_of_atEnd (s := ⟨b₁, inner, ⟨guard, lock, rest⟩ :: windows, deeds₁⟩) bodyEnded
        obtain ⟨others, deeds₂, ended, later⟩ := leads_run (b₁.leaveWindow guard lock) rest windows deeds₁
        refine ⟨others, deeds₂, ended, .first (next_of_allow rfl held) (within.trans (.first left ?_))⟩
        rw [LockBoard.run, LockBoard.step, held]
        · exact later
        · simp
    | _ =>
      obtain ⟨others, deeds', ended, later⟩ := leads_run (b.step _).2 rest windows (LockStep.deeds b _ ++ deeds)
      refine ⟨others, deeds', ended, .first rfl ?_⟩
      rw [LockBoard.run]
      · exact later
      · simp
termination_by sizeOf script

/-- What holds of locks, guards and windows at a point of a run. -/
structure Disciplined (n : Nat) (s : LockRun) : Prop where
  /-- A lock has at most one active guard. -/
  single : ∀ g g' l, s.board.guards.get? g = some l → s.board.guards.get? g' = some l → g = g'
  locked_iff : ∀ l, s.board.isLocked l = true ↔ ∃ g, s.board.guards.get? g = some l
  /-- Each window that was opened counts, however it ended. -/
  windows : ∀ l x, s.board.locks[l]? = some x → x.windows = s.deeds.countP (· = .opened l)
  /-- Every value made under a lock counts, in windows too, and no other does. -/
  heap : ∀ l x, s.board.locks[l]? = some x → x.heap = LockDeed.heap s.deeds l
  /-- A try succeeds just when the lock is free; it makes a guard or changes nothing. -/
  tryAcquire : ∀ guard l, l < n →
    (s.board.step (.tryAcquire guard l)).1 = .flag (!s.board.isLocked l) ∧
      if s.board.isLocked l then (s.board.step (.tryAcquire guard l)).2 = s.board
      else (s.board.step (.tryAcquire guard l)).2.guards.get? guard = some l
  /-- A free lock is locked while it is held for one value, and free again after it. -/
  briefly : ∀ l data, l < n → s.board.isLocked l = false →
    (s.board.step (.briefly l data)).1 = .brief true (LockDeed.heap (.made l (.bytes data) :: s.deeds) l) ∧
      (s.board.step (.briefly l data)).2.isLocked l = false
  /-- What a guard sees of the heap. -/
  make : ∀ guard l literal, s.board.guards.get? guard = some l →
    ∃ v, (s.board.step (.make guard literal)).1 = .made v (LockDeed.heap (.made l v :: s.deeds) l)
  /-- A window frees the lock of its guard and no other. -/
  enter : ∀ guard l body rest, s.rest = .allow guard body :: rest → s.board.guards.get? guard = some l →
    ∃ s', s.next = some s' ∧ s'.rest = body ∧ s'.windows = ⟨guard, l, rest⟩ :: s.windows ∧
      s'.deeds = .opened l :: s.deeds ∧ s'.board.isLocked l = false ∧
      (∀ l', l ≠ l' → s'.board.locks[l']? = s.board.locks[l']?) ∧
      ∀ g, s'.board.guards.get? g = if guard = g then none else s.board.guards.get? g
  /-- At its end, reached or by unwinding, its guard is active again. -/
  leave : ∀ w others, s.windows = w :: others → AtEnd s.rest →
    ∃ s', s.next = some s' ∧ s'.rest = w.rest ∧ s'.windows = others ∧ s'.deeds = s.deeds ∧
      s'.board.guards.get? w.guard = some w.lock ∧ s'.board.isLocked w.lock = true

theorem Sound.disciplined {n : Nat} {s : LockRun} (sound : s.Sound n) : s.Disciplined n where
  single := sound.board.fair.single
  locked_iff := sound.board.fair.locked_iff
  windows l x found := (sound.board.counts l x found).1
  heap l x found := (sound.board.counts l x found).2
  tryAcquire guard l inside := by
    have reached : ¬ l ≥ s.board.locks.length := by rw [sound.board.length]; exact Nat.not_le.2 inside
    cases locked : s.board.isLocked l <;> simp [LockBoard.step, reached, locked, LockBoard.get?_take]
  briefly l data inside free := by
    have inside' : l < s.board.locks.length := sound.board.length.symm ▸ inside
    have reached : ¬ l ≥ s.board.locks.length := Nat.not_le.2 inside'
    have taken : l < (s.board.modify l RuntimeLock.acquire).locks.length := (s.board.length_modify l _).symm ▸ inside'
    have locked : ((s.board.modify l RuntimeLock.acquire).make l (.bytes data)).2.2.isLocked l = true := by
      rw [(LockBoard.make_keeps _ _ _).2.2, LockBoard.isLocked_acquire inside', if_pos rfl]
    have seen := sound.board.counts.acquire.heap_make taken (.bytes data)
    rw [LockBoard.make_bytes taken] at seen
    simp only [LockBoard.step, reached, free, if_false, Bool.false_eq_true, locked, seen, true_and]
    rw [LockBoard.isLocked_free fun _ => rfl, if_pos rfl]
  make guard l literal held := by
    have seen := sound.board.counts.heap_make (sound.board.fair.lt_length held) literal
    refine ⟨(s.board.make l literal).1, ?_⟩
    simp only [LockBoard.step, held, seen]
  enter guard l body rest first held := by
    refine ⟨_, next_of_allow first held, rfl, rfl, rfl, ?_, fun l' other => ?_, fun g => ?_⟩
    · show (s.board.modify l RuntimeLock.openWindow).isLocked l = false
      rw [LockBoard.isLocked_free fun _ => rfl, if_pos rfl]
    · show (s.board.modify l RuntimeLock.openWindow).locks[l']? = _
      rw [LockBoard.getElem?_modify, if_neg other]
    · exact Keyed.get?_erase _ _ _
  leave w others isOpen ended := by
    have back : (s.board.leaveWindow w.guard w.lock).guards.get? w.guard = some w.lock := by
      rw [LockBoard.leaveWindow, LockBoard.get?_take, if_pos rfl]
    have moved : s.next = some (s.leave w others) := by rw [next_of_atEnd ended, isOpen]
    exact ⟨_, moved, rfl, rfl, rfl, back, ((sound.next moved).board.fair.locked_iff _).2 ⟨_, back⟩⟩

/-- **Locks and nested windows.** At every point of every script, however deep in windows and whether they unwind,
each lock has at most one active guard, is locked just when it has one, and counts right; and the script comes to an
end outside all windows, with the board that `LockBoard.run` has. -/
theorem nested_windows (n : Nat) (script : List LockStep) :
    (∀ k, ((start n script).after k).Disciplined n) ∧
      ∃ k, let e := (start n script).after k
        e.next = none ∧ e.windows = [] ∧ e.board = ((LockBoard.new n).run script).2.2 := by
  refine ⟨fun k => ((sound_start n script).after k).disciplined, ?_⟩
  obtain ⟨rest, deeds, ended, k, reached⟩ := leads_run (.new n) script [] []
  refine ⟨k, ?_⟩
  show (LockRun.after ⟨.new n, script, [], []⟩ k).next = none ∧
    (LockRun.after ⟨.new n, script, [], []⟩ k).windows = [] ∧
    (LockRun.after ⟨.new n, script, [], []⟩ k).board = _
  rw [reached]
  exact ⟨next_of_atEnd ended, rfl, rfl⟩

/-- Two windows of one lock, the inner one unwinding: the outer guard has the lock in the end. -/
example : ((LockBoard.new 1).run
      [.acquire "outer" 0, .allow "outer" [.acquire "inner" 0, .allow "inner" [.unwind]]]).2.2 =
    ⟨[{ windows := 2, locked := true }], [("outer", 0)]⟩ := by rfl

end LockRun
end ScriptStreams
