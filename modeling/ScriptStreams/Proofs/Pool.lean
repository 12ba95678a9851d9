import ScriptStreams.World
/-!
# What the scratch pool grants

Whatever was acquired, written and dropped before, the pool keeps at most `classLimit` cleared blocks of
each class, all of the size of the class (`Pool.Sound`). A request within the ceiling is granted if its class has
a buffer to give or memory can be reserved for one (`Pool.grants_iff`), and a buffer that is lent and given back
changes nothing in what is granted afterwards (`Pool.grants_release`). What is granted is as long as was asked for,
and reading it back after a write gives what was written (`Buffer.take_write`, `Buffer.untilNul_write`).
-/
namespace ScriptStreams

/-- Nothing behind a NUL is looked at. -/
theorem Bytes.untilNul_append_zero (string rest : Bytes) :
    Bytes.untilNul (string ++ ([0] ++ rest)) = string.untilNul := by
  induction string with
  | nil => simp [Bytes.untilNul]
  | cons x string ih => rw [List.cons_append, Bytes.untilNul_cons, Bytes.untilNul_cons, ih]

namespace Scratch

namespace SizeClass

/-- In a pooled class the capacity does not depend on the request, and is at most the largest class size. -/
theorem capacity_of_pooled {c : SizeClass} (h : c ≠ .oversize) (n : Nat) :
    c.capacity n = c.capacity 0 ∧ c.capacity n ≤ largeSize := by
  cases c with
  | oversize => exact absurd rfl h
  | small => exact ⟨rfl, by simp [capacity, smallSize, largeSize]⟩
  | medium => exact ⟨rfl, by simp [capacity, mediumSize, largeSize]⟩
  | large => exact ⟨rfl, Nat.le_refl _⟩

end SizeClass

/-- A buffer of `n` bytes on the memory of the class that serves them. -/
structure Buffer.Backed (b : Buffer) (n : Nat) : Prop where
  length : b.length = n
  sizeClass : b.sizeClass = .forLength n
  size : b.memory.size = (SizeClass.forLength n).capacity n

namespace Buffer.Backed

variable {b : Buffer} {n : Nat}

theorem length_le (backed : b.Backed n) : b.length ≤ b.memory.size := by
  rw [backed.length, backed.size]
  exact SizeClass.le_capacity n

/-- A write changes the content of the memory alone. -/
theorem write (backed : b.Backed n) (placed : Bytes) : (b.write placed).Backed n :=
  ⟨backed.length, backed.sizeClass, backed.size⟩

/-- In a pooled class all memory is of one size. -/
theorem size_of_pooled (backed : b.Backed n) (pooled : b.sizeClass ≠ .oversize) :
    b.memory.size = b.sizeClass.capacity 0 := by
  rw [backed.sizeClass] at pooled ⊢
  rw [backed.size, (SizeClass.capacity_of_pooled pooled n).1]

end Buffer.Backed

namespace Pool

structure Sound (p : Pool) : Prop where
  sized : ∀ c, ∀ m ∈ p.kept c, m.size = c.capacity 0
  cleared : ∀ c, ∀ m ∈ p.kept c, m.front = []
  bounded : ∀ c, (p.kept c).length ≤ classLimit

variable {p after : Pool} {a : Allocator} {b : Buffer} {c c' : SizeClass} {blocks : List Block} {n ceiling : Nat}

theorem sound_empty : Sound {} where
  sized c m hm := by cases c <;> simp [kept] at hm
  cleared c m hm := by cases c <;> simp [kept] at hm
  bounded c := by cases c <;> simp [kept]

theorem kept_withKept_of_ne (h : c ≠ c') : (p.withKept blocks c).kept c' = p.kept c' := by
  cases c <;> cases c' <;> first | rfl | exact absurd rfl h

theorem Sound.withKept (h : p.Sound) (sized : ∀ m ∈ blocks, m.size = c.capacity 0)
    (cleared : ∀ m ∈ blocks, m.front = []) (bounded : blocks.length ≤ classLimit) : (p.withKept blocks c).Sound := by
  by_cases oversize : c = .oversize
  · subst oversize
    exact h
  · have same := kept_withKept p blocks c oversize
    refine ⟨fun c' m hm => ?_, fun c' m hm => ?_, fun c' => ?_⟩ <;> by_cases hc : c = c'
    · subst hc
      exact sized m (same ▸ hm)
    · rw [kept_withKept_of_ne hc] at hm
      exact h.sized c' m hm
    · subst hc
      exact cleared m (same ▸ hm)
    · rw [kept_withKept_of_ne hc] at hm
      exact h.cleared c' m hm
    · subst hc
      rw [same]
      exact bounded
    · rw [kept_withKept_of_ne hc]
      exact h.bounded c'

theorem pooled_of_kept (h : p.kept c ≠ []) : c ≠ .oversize := by
  rintro rfl
  exact h rfl

/-- How a request ends: it is over the ceiling, its class has a buffer, or new memory is asked for, in vain or not. -/
theorem acquire_cases (p : Pool) (a : Allocator) (n ceiling : Nat) :
    let c := SizeClass.forLength n
    (ceiling < n ∧ p.acquire a n ceiling = (.error (.overCeiling n ceiling), p)) ∨
      (n ≤ ceiling ∧ ∃ memory rest, p.kept c = memory :: rest ∧
        p.acquire a n ceiling = (.ok ⟨memory, n, c⟩, p.withKept rest c)) ∨
      (n ≤ ceiling ∧ p.kept c = [] ∧ a.reserves (c.capacity n) = true ∧
        ∃ memory, memory.size = c.capacity n ∧ memory.front = [] ∧
          p.acquire a n ceiling = (.ok ⟨memory, n, c⟩, p)) ∨
      (n ≤ ceiling ∧ p.kept c = [] ∧ a.reserves (c.capacity n) = false ∧
        p.acquire a n ceiling = (.error (.outOfMemory (c.capacity n)), p)) := by
  intro c
  unfold Pool.acquire
  by_cases above : n > ceiling
  · rw [if_pos above]
    exact .inl ⟨above, rfl⟩
  · rw [if_neg above]
    refine .inr ?_
    have within : n ≤ ceiling := Nat.not_lt.1 above
    cases kept : p.kept c with
    | cons memory rest => exact .inl ⟨within, memory, rest, rfl, by simp only [c, kept]⟩
    | nil =>
      refine .inr ?_
      cases reserved : a.reserves (c.capacity n) with
      | true =>
        refine .inl ⟨within, rfl, rfl, { size := c.capacity n }, rfl, rfl, ?_⟩
        simp only [c, kept, reserved, if_true]
      | false => exact .inr ⟨within, rfl, rfl, by simp only [c, kept, reserved, Bool.false_eq_true, if_false]⟩

theorem Sound.acquire (h : p.Sound) (a : Allocator) (n ceiling : Nat) : (p.acquire a n ceiling).2.Sound := by
  rcases p.acquire_cases a n ceiling with
    ⟨-, acquired⟩ | ⟨-, memory, rest, kept, acquired⟩ | ⟨-, -, -, memory, -, -, acquired⟩ | ⟨-, -, -, acquired⟩ <;>
    rw [acquired]
  · exact h
  · have listed : ∀ m ∈ rest, m ∈ p.kept (.forLength n) := fun m hm => by simp [kept, hm]
    have bounded := h.bounded (.forLength n)
    rw [kept, List.length_cons] at bounded
    exact h.withKept (fun m hm => h.sized _ m (listed m hm)) (fun m hm => h.cleared _ m (listed m hm)) (by omega)
  · exact h
  · exact h

theorem Sound.release (h : p.Sound) (b : Buffer) : (p.release b).Sound := by
  unfold Pool.release
  dsimp only
  split
  · next keeps =>
    refine h.withKept ?_ ?_ keeps.2.1
    · intro m hm
      rcases List.mem_cons.1 hm with rfl | hm
      · exact keeps.2.2
      · exact h.sized _ m hm
    · intro m hm
      rcases List.mem_cons.1 hm with rfl | hm
      · rfl
      · exact h.cleared _ m hm
  · exact h

/-! ## Requests that are granted -/

/-- **What is acquired** is of the length asked for, on memory of its class, and without bytes from before. -/
theorem Sound.of_acquire (sound : p.Sound) (acquired : p.acquire a n ceiling = (.ok b, after)) :
    b.Backed n ∧ b.memory.front = [] := by
  rcases p.acquire_cases a n ceiling with
    ⟨-, ended⟩ | ⟨-, memory, rest, kept, ended⟩ | ⟨-, -, -, memory, size, empty, ended⟩ | ⟨-, -, -, ended⟩ <;>
    rw [ended] at acquired <;> cases acquired
  · have mem : memory ∈ p.kept (.forLength n) := by simp [kept]
    have pooled := pooled_of_kept (List.ne_nil_of_mem mem)
    refine ⟨⟨rfl, rfl, ?_⟩, sound.cleared _ memory mem⟩
    show memory.size = (SizeClass.forLength n).capacity n
    rw [sound.sized _ memory mem, (SizeClass.capacity_of_pooled pooled n).1]
  · exact ⟨⟨rfl, rfl, size⟩, empty⟩

/-- Whether a buffer of `n` bytes is to be had. -/
def grants (p : Pool) (a : Allocator) (ceiling n : Nat) : Bool := (p.acquire a n ceiling).1.isOk

/-- **What it takes for a request to be granted**: it is within the ceiling, and its class has a buffer to give or
memory can be reserved for one. -/
theorem grants_iff : p.grants a ceiling n = true ↔
    n ≤ ceiling ∧ (p.kept (.forLength n) ≠ [] ∨ a.reserves ((SizeClass.forLength n).capacity n) = true) := by
  unfold grants
  rcases p.acquire_cases a n ceiling with
    ⟨above, ended⟩ | ⟨within, memory, rest, kept, ended⟩ | ⟨within, kept, reserved, memory, -, -, ended⟩ |
      ⟨-, kept, refused, ended⟩ <;>
    rw [ended]
  · exact iff_of_false Bool.false_ne_true fun granted => Nat.not_le.2 above granted.1
  · exact iff_of_true rfl ⟨within, .inl (by simp [kept])⟩
  · exact iff_of_true rfl ⟨within, .inr reserved⟩
  · exact iff_of_false Bool.false_ne_true (by simp [kept, refused])

/-- Buffers that are kept only of classes that there is memory for make no difference. -/
theorem grants_of_spare (spare : ∀ c, p.kept c ≠ [] → a.reserves (c.capacity 0) = true) :
    p.grants a ceiling n = true ↔ n ≤ ceiling ∧ a.reserves ((SizeClass.forLength n).capacity n) = true := by
  rw [grants_iff]
  refine and_congr_right fun _ => ⟨fun had => ?_, .inr⟩
  rcases had with kept | reserved
  · rw [(SizeClass.capacity_of_pooled (pooled_of_kept kept) n).1]
    exact spare _ kept
  · exact reserved

/-- Nothing is granted that is longer than memory can be. -/
theorem le_of_grants (granted : p.grants a ceiling n = true) : n ≤ Allocator.maxBlock := by
  obtain ⟨-, kept | reserved⟩ := grants_iff.1 granted
  · have capacity := (SizeClass.capacity_of_pooled (pooled_of_kept kept) n).2
    have le := SizeClass.le_capacity n
    have top : largeSize ≤ Allocator.maxBlock := by decide
    omega
  · exact Nat.le_trans (SizeClass.le_capacity n) (a.addressable reserved)

theorem acquire_of_grants (granted : p.grants a ceiling n = true) :
    ∃ b after, p.acquire a n ceiling = (.ok b, after) := by
  unfold grants at granted
  rcases acquired : p.acquire a n ceiling with ⟨refusal | b, after⟩
  · rw [acquired] at granted
    cases granted
  · exact ⟨b, after, rfl⟩

/-- **A request that is refused** leaves the pool as it was. -/
theorem acquire_of_not_grants (refused : ¬ p.grants a ceiling n = true) :
    ∃ r, p.acquire a n ceiling = (.error r, p) := by
  unfold grants at refused
  rcases p.acquire_cases a n ceiling with
    ⟨-, ended⟩ | ⟨-, memory, rest, -, ended⟩ | ⟨-, -, -, memory, -, -, ended⟩ | ⟨-, -, -, ended⟩
  · exact ⟨_, ended⟩
  · exact absurd (by rw [ended]; rfl) refused
  · exact absurd (by rw [ended]; rfl) refused
  · exact ⟨_, ended⟩

/-! ## Buffers that are lent and given back -/

theorem kept_acquire_of_ne (other : .forLength n ≠ c) : (p.acquire a n ceiling).2.kept c = p.kept c := by
  rcases p.acquire_cases a n ceiling with
    ⟨-, ended⟩ | ⟨-, memory, rest, -, ended⟩ | ⟨-, -, -, memory, -, -, ended⟩ | ⟨-, -, -, ended⟩ <;> rw [ended]
  exact kept_withKept_of_ne other

theorem kept_release_of_ne (p : Pool) (other : b.sizeClass ≠ c) : (p.release b).kept c = p.kept c := by
  unfold release
  dsimp only
  split
  · exact kept_withKept_of_ne other
  · rfl

/-- Whatever a pooled class had, with a buffer given back it has one to give. -/
theorem kept_release_ne_nil (p : Pool) (backed : b.Backed n) (pooled : b.sizeClass ≠ .oversize) :
    (p.release b).kept b.sizeClass ≠ [] := by
  by_cases room : (p.kept b.sizeClass).length < classLimit
  · rw [release, if_pos ⟨pooled, room, backed.size_of_pooled pooled⟩, kept_withKept _ _ _ pooled]
    exact List.cons_ne_nil _ _
  · rw [release, if_neg fun keeps => room keeps.2.1]
    intro none_kept
    rw [none_kept] at room
    exact room (by decide)

/-- **A buffer that was lent and is given back** changes nothing in what is granted, even if meanwhile others were: what
is granted to its class without it, by the memory that can be reserved, is granted with it. -/
theorem grants_release {q : Pool} (acquired : p.acquire a n ceiling = (.ok b, after)) {b' : Buffer} (backed : b'.Backed n)
    (meanwhile : q.grants a ceiling = after.grants a ceiling) : (q.release b').grants a ceiling = p.grants a ceiling := by
  funext m
  rw [Bool.eq_iff_iff]
  by_cases other : SizeClass.forLength n = .forLength m
  · by_cases oversize : SizeClass.forLength m = .oversize
    · -- this class never has a buffer to give
      rw [grants_iff, grants_iff, oversize]
      rfl
    · have granted : p.grants a ceiling n = true := by rw [grants, acquired]; rfl
      have capacity (n : Nat) := (SizeClass.capacity_of_pooled oversize n).1
      have before := (grants_iff.1 granted).2
      rw [other, capacity, ← capacity m] at before
      have class_eq := backed.sizeClass.trans other
      have given := q.kept_release_ne_nil backed (class_eq ▸ oversize)
      rw [class_eq] at given
      rw [grants_iff, grants_iff]
      exact and_congr_right fun _ => iff_of_true (.inl given) before
  · have same : after.kept (.forLength m) = p.kept (.forLength m) := by
      have kept : (p.acquire a n ceiling).2.kept (.forLength m) = p.kept (.forLength m) := kept_acquire_of_ne other
      rwa [acquired] at kept
    rw [grants_iff, q.kept_release_of_ne (backed.sizeClass ▸ other), ← grants_iff, meanwhile, grants_iff, same, grants_iff]

end Pool

namespace Buffer

variable (b : Buffer) (placed : Bytes)

/-- The bytes of a buffer after a write over its front. -/
theorem bytes_write (fits : placed.length ≤ b.length) (backed : b.length ≤ b.memory.size) :
    (b.write placed).bytes = placed ++ (b.memory.bytes.drop placed.length).take (b.length - placed.length) := by
  have whole : (b.write placed).memory.bytes = Bytes.overlay b.memory.bytes placed := b.memory.bytes_write (by omega)
  rw [bytes, whole, Bytes.overlay, List.take_append]
  rw [List.take_of_length_le (show placed.length ≤ (b.write placed).length from fits)]
  rfl

theorem take_write (fits : placed.length ≤ b.length) (backed : b.length ≤ b.memory.size) :
    (b.write placed).take placed.length = placed := by
  rw [take_eq, bytes_write b placed fits backed, List.take_left]

/-- What was written up to a NUL is read back up to its first NUL. -/
theorem untilNul_write (string : Bytes) (fits : (string ++ [0]).length ≤ b.length) (backed : b.length ≤ b.memory.size) :
    (b.write (string ++ [0])).untilNul = string.untilNul := by
  rw [untilNul_eq, bytes_write b _ fits backed, List.append_assoc]
  exact Bytes.untilNul_append_zero string _

end Buffer
end Scratch

/-! ## Worlds that lend alike -/

namespace World

/-- Whether a handle has a buffer of `n` bytes to read with. -/
def grants (w : World) (n : Nat) : Bool := w.pool.grants w.allocator w.host.config.maxScratch n

/-- On the same terms the sound pool of `w` grants what that of `v` does, whatever the two keep. -/
structure LendsAs (v w : World) : Prop where
  pool : w.pool.Sound
  ceiling : w.host.config.maxScratch = v.host.config.maxScratch
  allocator : w.allocator = v.allocator
  grants : w.grants = v.grants

namespace LendsAs

variable {v w w' : World} {n : Nat} {b : Scratch.Buffer} {after : Scratch.Pool}

theorem refl (pool : w.pool.Sound) : w.LendsAs w := ⟨pool, rfl, rfl, rfl⟩

theorem symm (lends : v.LendsAs w) (pool : v.pool.Sound) : w.LendsAs v :=
  ⟨pool, lends.ceiling.symm, lends.allocator.symm, lends.grants.symm⟩

theorem trans (lends : v.LendsAs w) (next : w.LendsAs w') : v.LendsAs w' :=
  ⟨next.pool, next.ceiling.trans lends.ceiling, next.allocator.trans lends.allocator, next.grants.trans lends.grants⟩

theorem of_same (lends : v.LendsAs w) (pool : w'.pool = w.pool) (host : w'.host = w.host)
    (allocator : w'.allocator = w.allocator) : v.LendsAs w' where
  pool := pool ▸ lends.pool
  ceiling := host ▸ lends.ceiling
  allocator := allocator ▸ lends.allocator
  grants := by rw [← lends.grants]; unfold World.grants; rw [pool, host, allocator]

/-- What is lent is of the length asked for, and the pool that is left is sound. -/
theorem acquire (lends : v.LendsAs w)
    (acquired : w.pool.acquire w.allocator n w.host.config.maxScratch = (.ok b, after)) :
    b.Backed n ∧ b.memory.front = [] ∧ LendsAs { w with pool := after } { w with pool := after } := by
  have sound := lends.pool.acquire w.allocator n w.host.config.maxScratch
  rw [acquired] at sound
  obtain ⟨backed, empty⟩ := lends.pool.of_acquire acquired
  exact ⟨backed, empty, refl sound⟩

/-- **Once a buffer is back** the world lends as it did before. -/
theorem release (lends : v.LendsAs w)
    (acquired : w.pool.acquire w.allocator n w.host.config.maxScratch = (.ok b, after))
    (meanwhile : LendsAs { w with pool := after } w') {b' : Scratch.Buffer} (backed : b'.Backed n) :
    v.LendsAs { w' with pool := w'.pool.release b' } where
  pool := meanwhile.pool.release b'
  ceiling := meanwhile.ceiling.trans lends.ceiling
  allocator := meanwhile.allocator.trans lends.allocator
  grants := by
    have same : w'.pool.grants w.allocator w.host.config.maxScratch = after.grants w.allocator w.host.config.maxScratch := by
      have grants := meanwhile.grants
      unfold World.grants at grants
      rwa [meanwhile.ceiling, meanwhile.allocator] at grants
    rw [← lends.grants]
    unfold World.grants
    rw [meanwhile.ceiling, meanwhile.allocator]
    exact Scratch.Pool.grants_release acquired backed same

/-- Pools with buffers only of classes that there is memory for lend alike. -/
theorem of_spare {p : Scratch.Pool} (pool : p.Sound)
    (spare : ∀ c, w.pool.kept c ≠ [] → w.allocator.reserves (c.capacity 0) = true)
    (spare' : ∀ c, p.kept c ≠ [] → w.allocator.reserves (c.capacity 0) = true) :
    w.LendsAs { w with pool := p } where
  pool := pool
  ceiling := rfl
  allocator := rfl
  grants := by
    funext n
    rw [Bool.eq_iff_iff]
    exact (Scratch.Pool.grants_of_spare spare').trans (Scratch.Pool.grants_of_spare spare).symm

end LendsAs
end World
end ScriptStreams
