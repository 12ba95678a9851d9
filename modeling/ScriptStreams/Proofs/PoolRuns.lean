import ScriptStreams.Proofs.Pool
import ScriptStreams.Scratch.Shelf
/-!
# Fresh buffers from a bounded pool

Buffers are acquired under names, written through, and dropped in whatever order (`Shelf.afterAll`). All the while each
buffer that is held has the memory of its class (`Buffer.Backed`), which no write changes, so that what is dropped fits
the pool, and the pool is sound (`Shelf.Sound`). How any request ends then (`Pool.Lends`), and what any drop does
(`Pool.TakesBack`), follows from how many buffers of a class are kept (`Shelf.fresh_and_bounded`).
-/
namespace ScriptStreams.Scratch

namespace Buffer.Backed

variable {b : Buffer} {n : Nat}

theorem length_bytes (backed : b.Backed n) : b.bytes.length = n := by
  rw [bytes, List.length_take, Block.length_bytes, Nat.min_eq_left backed.length_le, backed.length]

theorem bytes_of_empty (backed : b.Backed n) (empty : b.memory.front = []) : b.bytes = Bytes.zeros n := by
  rw [bytes_eq, empty, List.take_nil, List.nil_append, List.length_nil, Nat.sub_zero, Nat.min_eq_left backed.length_le,
    backed.length]

end Buffer.Backed

/-! ## Requests and drops -/

namespace Pool

variable {p : Pool} {b : Buffer} {c : SizeClass} {n : Nat}

theorem count_withKept (pooled : c ≠ .oversize) (blocks : List Block) :
    (p.withKept blocks c).count + (p.kept c).length = p.count + blocks.length := by
  cases c with
  | oversize => exact absurd rfl pooled
  | small | medium | large =>
    simp only [count, withKept, kept]
    omega

/-- How a request for `n` bytes ends, where memory is reserved by `a`, and what it leaves in the pool. -/
structure Lends (p : Pool) (a : Allocator) (n ceiling : Nat) : Prop where
  overCeiling : (p.acquire a n ceiling).1 = .error (.overCeiling n ceiling) ↔ ceiling < n
  /-- Within the ceiling, nothing but memory that cannot be had stands in the way. -/
  outOfMemory : n ≤ ceiling → ∀ refusal, (p.acquire a n ceiling).1 = .error refusal ↔
    refusal = .outOfMemory ((SizeClass.forLength n).capacity n) ∧ p.kept (.forLength n) = [] ∧
      a.reserves ((SizeClass.forLength n).capacity n) = false
  fresh : ∀ b, (p.acquire a n ceiling).1 = .ok b →
    b.length = n ∧ b.bytes = Bytes.zeros n ∧ b.length ≤ b.memory.size
  served : n ≤ ceiling → p.kept (.forLength n) ≠ [] → (p.acquire a n ceiling).2.count + 1 = p.count
  unserved : ceiling < n ∨ p.kept (.forLength n) = [] → (p.acquire a n ceiling).2.count = p.count

/-- What dropping a buffer does to the pool. -/
structure TakesBack (p : Pool) (b : Buffer) : Prop where
  room : b.sizeClass ≠ .oversize → (p.kept b.sizeClass).length < classLimit → (p.release b).count = p.count + 1
  noRoom : b.sizeClass = .oversize ∨ classLimit ≤ (p.kept b.sizeClass).length → (p.release b).count = p.count

theorem Sound.lends (sound : p.Sound) (a : Allocator) (n ceiling : Nat) : p.Lends a n ceiling := by
  have fresh : ∀ b, (p.acquire a n ceiling).1 = .ok b →
      b.length = n ∧ b.bytes = Bytes.zeros n ∧ b.length ≤ b.memory.size := by
    intro b granted
    obtain ⟨backed, empty⟩ := sound.of_acquire (Prod.ext granted rfl)
    exact ⟨backed.length, backed.bytes_of_empty empty, backed.length_le⟩
  rcases p.acquire_cases a n ceiling with
    ⟨above, ended⟩ | ⟨within, memory, rest, kept, ended⟩ | ⟨within, none_kept, reserved, memory, -, -, ended⟩ |
      ⟨within, none_kept, refused, ended⟩
  · refine ⟨by simp [ended, above], fun within => absurd within (Nat.not_le.2 above), fresh, fun within => ?_, fun _ => ?_⟩
    · exact absurd within (Nat.not_le.2 above)
    · rw [ended]
  · refine ⟨by simp [ended, within], fun _ refusal => ?_, fresh, fun _ _ => ?_, fun unserved => ?_⟩
    · simp [ended, kept]
    · have pooled : SizeClass.forLength n ≠ .oversize := pooled_of_kept (p := p) (by simp [kept])
      have count := p.count_withKept pooled rest
      rw [kept, List.length_cons] at count
      rw [ended]
      dsimp only
      omega
    · rcases unserved with above | none_kept
      · exact absurd within (Nat.not_le.2 above)
      · rw [kept] at none_kept
        cases none_kept
  · refine ⟨by simp [ended, within], fun _ refusal => ?_, fresh, fun _ served => absurd none_kept served, fun _ => ?_⟩
    · simp [ended, reserved]
    · rw [ended]
  · refine ⟨by simp [ended, within], fun _ refusal => ?_, fresh, fun _ served => absurd none_kept served, fun _ => ?_⟩
    · simp [ended, none_kept, refused, eq_comm]
    · rw [ended]

theorem takesBack (p : Pool) (backed : b.Backed n) : p.TakesBack b where
  room pooled few := by
    have count := p.count_withKept pooled ({ size := b.memory.size } :: p.kept b.sizeClass)
    rw [List.length_cons] at count
    rw [release, if_pos ⟨pooled, few, backed.size_of_pooled pooled⟩]
    omega
  noRoom h := by
    rw [release, if_neg]
    rintro ⟨pooled, few, -⟩
    rcases h with oversize | full
    · exact pooled oversize
    · omega

end Pool

/-! ## Runs -/

/-- What may happen: a step of the shelf, a write of any bytes through a buffer, or that from then on other memory can be
reserved, so that each request may meet with whatever answer. -/
inductive ShelfUse where
  | step (step : ShelfStep)
  | write (name : String) (placed : Bytes)
  | allocator (a : Allocator)

namespace Shelf

/-- Through a buffer its usable bytes can be written, and no others. -/
def use (s : Shelf) : ShelfUse → Shelf
  | .step step => (s.step step).2
  | .write name placed =>
    match s.buffers.get? name with
    | some b => { s with buffers := s.buffers.set name (b.write (placed.take b.length)) }
    | none => s
  | .allocator a => { s with allocator := a }

def afterAll (s : Shelf) (uses : List ShelfUse) : Shelf := uses.foldl use s

/-- The pool is sound, and each buffer that is held has its memory. -/
structure Sound (s : Shelf) : Prop where
  pool : s.pool.Sound
  held : ∀ name b, s.buffers.get? name = some b → b.Backed b.length

variable {s : Shelf} {name : String} {b : Buffer}

theorem sound_empty : Sound {} := ⟨Pool.sound_empty, fun _ _ held => nomatch held⟩

theorem Sound.drop (sound : s.Sound) (name : String) : (s.drop name).Sound := by
  unfold Shelf.drop
  split
  · next b held =>
    refine ⟨sound.pool.release b, fun name' b' held' => ?_⟩
    rw [Keyed.get?_erase] at held'
    split at held'
    · cases held'
    · exact sound.held name' b' held'
  · exact sound

theorem Sound.set (sound : s.Sound) (backed : b.Backed b.length) (name : String) :
    Sound { s with buffers := s.buffers.set name b } := by
  refine ⟨sound.pool, fun name' b' held => ?_⟩
  rw [Keyed.get?_set] at held
  split at held
  · cases held
    exact backed
  · exact sound.held name' b' held

theorem Sound.step (sound : s.Sound) (step : ShelfStep) : (s.step step).2.Sound := by
  cases step with
  | acquire name n ceiling =>
    have pool := sound.pool.acquire s.allocator n ceiling
    rcases acquired : s.pool.acquire s.allocator n ceiling with ⟨refusal | b, after⟩ <;> rw [acquired] at pool <;>
      simp only [Shelf.step, acquired]
    · exact ⟨pool, sound.held⟩
    · have lent : Sound { s with pool := after } := ⟨pool, sound.held⟩
      have backed := (sound.pool.of_acquire acquired).1
      exact (lent.drop name).set (backed.length ▸ backed) name
  | fill name byte =>
    simp only [Shelf.step]
    split
    · next b held => exact sound.set ((sound.held name b held).write _) name
    · exact sound
  | describe name =>
    simp only [Shelf.step]
    split <;> exact sound
  | drop name => exact sound.drop name
  | clear => exact ⟨Pool.sound_empty, sound.held⟩

theorem Sound.use (sound : s.Sound) (use : ShelfUse) : (s.use use).Sound := by
  cases use with
  | step step => exact sound.step step
  | write name placed =>
    simp only [Shelf.use]
    split
    · next b held => exact sound.set ((sound.held name b held).write _) name
    · exact sound
  | allocator a => exact ⟨sound.pool, sound.held⟩

/-- **Sound throughout**: whatever is done with the buffers, in whatever order. -/
theorem Sound.afterAll (sound : s.Sound) (uses : List ShelfUse) : (s.afterAll uses).Sound := by
  induction uses generalizing s with
  | nil => exact sound
  | cons use rest ih => exact ih (sound.use use)

/-- **Fresh buffers from a bounded pool.** Let buffers be acquired, written through and dropped in any order, the pool be
cleared now and then, and what memory can be reserved change at will. At every point each class keeps at most `classLimit`
buffers, all of the size of the class and all zero, and a buffer that is held has all of its length. Every request then
ends as `Pool.Lends` says, whatever the allocator answers: it is refused if it is over the ceiling, and within it only if
its class has none to give and the memory of a buffer cannot be reserved; what is granted is just as long as was asked for
and all zero; and one buffer less is kept if the class had one to give. Every drop of a buffer that is held does as
`Pool.TakesBack` says: one more is kept if the class is pooled and has room, and no more if not. Clearing leaves none. -/
theorem fresh_and_bounded (uses : List ShelfUse) :
    let s := afterAll {} uses
    (∀ c, (s.pool.kept c).length ≤ classLimit ∧
      ∀ memory ∈ s.pool.kept c, memory.size = c.capacity 0 ∧ memory.bytes = Bytes.zeros (c.capacity 0)) ∧
      (∀ name b, s.buffers.get? name = some b →
        b.length ≤ b.memory.size ∧ b.bytes.length = b.length ∧ s.pool.TakesBack b) ∧
      (∀ a n ceiling, s.pool.Lends a n ceiling) ∧
      (s.step .clear).2.pool.count = 0 := by
  intro s
  have sound : s.Sound := sound_empty.afterAll uses
  refine ⟨fun c => ⟨sound.pool.bounded c, fun memory mem => ?_⟩, fun name b held => ?_, sound.pool.lends, rfl⟩
  · have size := sound.pool.sized c memory mem
    refine ⟨size, ?_⟩
    rw [Block.bytes, sound.pool.cleared c memory mem, List.nil_append, List.length_nil, Nat.sub_zero, size]
  · have backed := sound.held name b held
    exact ⟨backed.length_le, backed.length_bytes, s.pool.takesBack backed⟩

-- what the first holder wrote is gone when its memory is lent again
example : (run {} [.acquire "a" 4 64, .fill "a" 170, .drop "a", .acquire "b" 3 64, .clear]).1.map (·.2) = [0, 0, 1, 0, 0] ∧
    ((afterAll {} [.step (.acquire "a" 4 64), .write "a" [1, 2, 3, 4, 5], .step (.drop "a"),
      .step (.acquire "b" 3 64)]).buffers.get? "b").map (·.bytes) = some [0, 0, 0] := by decide

-- where little can be reserved the smallest request is refused, until its class has a buffer to give
example : (step (afterAll {} [.allocator (.upTo 512)]) (.acquire "a" 4 64)).1 = .refused (.outOfMemory 1024) ∧
    ((afterAll {} [.step (.acquire "a" 4 64), .step (.drop "a"), .allocator (.upTo 512),
      .step (.acquire "b" 3 64)]).buffers.get? "b").map (·.bytes) = some [0, 0, 0] := ⟨rfl, rfl⟩

end Shelf
end ScriptStreams.Scratch
