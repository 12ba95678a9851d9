import ScriptStreams.Allocator
import ScriptStreams.Bytes
/-!
# Scratch buffers

Memory for one read: a zero-filled buffer of the requested length, refused above a ceiling or
when it cannot be reserved. Buffers of the three pooled size classes go back to the pool when they are
dropped, cleared, as long as their class holds fewer than `classLimit`; larger ones are exact and
are never kept. Memory is held as the part that was written and a size; `bytes` is its whole content.
-/
namespace ScriptStreams.Scratch

def smallSize : Nat := 1024
def mediumSize : Nat := 8192
def largeSize : Nat := 65536

/-- Buffers kept per size class. -/
def classLimit : Nat := 8

inductive SizeClass where
  | small | medium | large
  /-- Exact size, never pooled. -/
  | oversize
  deriving DecidableEq

namespace SizeClass

/-- The class that serves a request (`SizeClass::for_len`). -/
def forLength (n : Nat) : SizeClass :=
  if n ≤ smallSize then .small
  else if n ≤ mediumSize then .medium
  else if n ≤ largeSize then .large
  else .oversize

/-- Bytes behind a request of `n` bytes in this class (`SizeClass::capacity_for`). -/
def capacity (n : Nat) : SizeClass → Nat
  | .small => smallSize
  | .medium => mediumSize
  | .large => largeSize
  | .oversize => n

def name : SizeClass → String
  | .small => "Small"
  | .medium => "Medium"
  | .large => "Large"
  | .oversize => "Oversize"

theorem le_capacity (n : Nat) : n ≤ (forLength n).capacity n := by
  unfold forLength
  split
  · assumption
  · split
    · assumption
    · split
      · assumption
      · exact Nat.le_refl n

end SizeClass

/-- Why a buffer was refused (`ScratchError`). -/
inductive Refusal where
  | overCeiling (requested ceiling : Nat)
  | outOfMemory (requested : Nat)
  deriving DecidableEq

def Refusal.message : Refusal → String
  | .overCeiling requested ceiling =>
    "scratch request of " ++ toString requested ++ " bytes exceeds ceiling of " ++ toString ceiling ++ " bytes"
  | .outOfMemory requested => "cannot allocate " ++ toString requested ++ " bytes of scratch memory"

/-- Memory of `size` bytes: those in `front`, and zeros behind them. -/
structure Block where
  size : Nat
  front : Bytes := []
  front_le : front.length ≤ size := by simp

namespace Block

/-- The whole content. -/
def bytes (m : Block) : Bytes := m.front ++ Bytes.zeros (m.size - m.front.length)

/-- `placed` written over the front; what does not fit is left out. -/
def write (m : Block) (placed : Bytes) : Block where
  size := m.size
  front := (Bytes.overlay m.front placed).take m.size
  front_le := List.length_take_le _ _

theorem length_bytes (m : Block) : m.bytes.length = m.size := by
  have := m.front_le
  simp [bytes, Bytes.zeros]
  omega

theorem bytes_write (m : Block) {placed : Bytes} (h : placed.length ≤ m.size) :
    (m.write placed).bytes = Bytes.overlay m.bytes placed := by
  have := m.front_le
  have fits : (Bytes.overlay m.front placed).take m.size = Bytes.overlay m.front placed := by
    apply List.take_of_length_le
    simp [Bytes.overlay]
    omega
  have front : (m.write placed).front = placed ++ m.front.drop placed.length := fits
  have size : (m.write placed).size = m.size := rfl
  simp only [bytes, front, size, Bytes.overlay, Bytes.zeros, List.append_assoc, List.drop_append,
    List.drop_replicate, List.length_append, List.length_drop]
  congr 3
  omega

end Block

/-- A granted buffer: `length` usable bytes at the front of its memory (`ScratchBuffer`). -/
structure Buffer where
  memory : Block
  length : Nat
  sizeClass : SizeClass

namespace Buffer

/-- The usable bytes. -/
def bytes (b : Buffer) : Bytes := b.memory.bytes.take b.length

/-- `placed` written over the front. -/
def write (b : Buffer) (placed : Bytes) : Buffer := { b with memory := b.memory.write placed }

/-- The first `n` usable bytes. -/
def take (b : Buffer) (n : Nat) : Bytes :=
  let n := min n (min b.length b.memory.size)
  b.memory.front.take n ++ Bytes.zeros (n - b.memory.front.length)

/-- The usable bytes before the first NUL (`until_nul`). -/
def untilNul (b : Buffer) : Bytes := Bytes.untilNul (b.memory.front.take b.length)

/-- All usable bytes are zero. -/
def isZero (b : Buffer) : Bool := (b.memory.front.take b.length).all (· = 0)

theorem bytes_eq (b : Buffer) :
    b.bytes = b.memory.front.take b.length ++ Bytes.zeros (min b.length b.memory.size - b.memory.front.length) := by
  have := b.memory.front_le
  simp only [bytes, Block.bytes, Bytes.zeros, List.take_append, List.take_replicate]
  congr 2
  omega

theorem take_eq (b : Buffer) (n : Nat) : b.take n = b.bytes.take n := by
  have := b.memory.front_le
  simp only [take, bytes_eq, Bytes.zeros, List.take_append, List.take_replicate, List.take_take,
    List.length_take]
  congr 1
  · rw [List.take_eq_take_iff]
    omega
  · congr 1
    omega

theorem untilNul_eq (b : Buffer) : b.untilNul = b.bytes.untilNul := by
  rw [untilNul, bytes_eq]
  generalize b.memory.front.take b.length = front
  generalize min b.length b.memory.size - b.memory.front.length = k
  induction front with
  | nil => cases k <;> simp [Bytes.untilNul, Bytes.zeros, List.replicate_succ]
  | cons x front ih => rw [List.cons_append, Bytes.untilNul_cons, Bytes.untilNul_cons, ih]

theorem isZero_eq (b : Buffer) : b.isZero = b.bytes.all (· = 0) := by
  simp [isZero, bytes_eq, Bytes.zeros]

def describe (b : Buffer) : String :=
  "ScratchBuffer \x7b len: " ++ toString b.length ++ ", class: " ++ b.sizeClass.name ++ " \x7d"

end Buffer

/-- The buffers kept for each pooled class (`ScratchPool`). -/
structure Pool where
  small : List Block := []
  medium : List Block := []
  large : List Block := []

namespace Pool

/-- The buffers kept for a class (`ScratchPool::class_mut`). -/
def kept (p : Pool) : SizeClass → List Block
  | .small => p.small
  | .medium => p.medium
  | .large => p.large
  | .oversize => []

def withKept (p : Pool) (blocks : List Block) : SizeClass → Pool
  | .small => { p with small := blocks }
  | .medium => { p with medium := blocks }
  | .large => { p with large := blocks }
  | .oversize => p

/-- All kept buffers (`ScratchPool::pooled_count`). -/
def count (p : Pool) : Nat := p.small.length + p.medium.length + p.large.length

/-- A buffer of `n` bytes, from the pool if its class holds one, and else of memory that is reserved for it
(`ScratchBuffer::acquire`). -/
def acquire (p : Pool) (a : Allocator) (n ceiling : Nat) : Except Refusal Buffer × Pool :=
  if n > ceiling then (.error (.overCeiling n ceiling), p) else
  let c := SizeClass.forLength n
  match p.kept c with
  | memory :: rest => (.ok ⟨memory, n, c⟩, p.withKept rest c)
  | [] =>
    let capacity := c.capacity n
    if a.reserves capacity then (.ok ⟨{ size := capacity }, n, c⟩, p)
    else (.error (.outOfMemory capacity), p)

/-- Drop a buffer: it is cleared and kept if its class is pooled and has room (`ScratchPool::give_back`). -/
def release (p : Pool) (b : Buffer) : Pool :=
  let blocks := p.kept b.sizeClass
  if b.sizeClass ≠ .oversize ∧ blocks.length < classLimit ∧ b.memory.size = b.sizeClass.capacity 0 then
    p.withKept ({ size := b.memory.size } :: blocks) b.sizeClass
  else p

theorem kept_withKept (p : Pool) (blocks : List Block) (c : SizeClass) (h : c ≠ .oversize) :
    (p.withKept blocks c).kept c = blocks := by
  cases c <;> first | rfl | exact absurd rfl h

end Pool
end ScriptStreams.Scratch
