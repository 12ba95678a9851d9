/-!
# Byte strings and buffers

A buffer is a list of bytes; reading places bytes at its front and leaves the rest alone
(`overlay`). Stored contents are arrays, read by position (`slice`, `slice_eq`).
-/
namespace ScriptStreams

abbrev Bytes := List UInt8

namespace Bytes

def newline : UInt8 := 10

def zeros (n : Nat) : Bytes := List.replicate n 0

/-- Up to `n` bytes of `content` from position `pos` on. -/
def slice (content : Array UInt8) (pos n : Nat) : Bytes := (content.extract pos (pos + n)).toList

/-- `placed` written over the front of `buffer`. -/
def overlay (buffer placed : Bytes) : Bytes := placed ++ buffer.drop placed.length

/-- The bytes before the first NUL, all of them if there is none. -/
def untilNul (b : Bytes) : Bytes := b.takeWhile (· != 0)

/-- Bytes `first, first + 1, …` modulo 256. -/
def counting (first n : Nat) : Bytes := (List.range n).map fun i => UInt8.ofNat (first + i)

/-- `pattern` written `n` times. -/
def repeated (pattern : Bytes) (n : Nat) : Bytes := (List.replicate n pattern).flatten

/-! ## Small laws -/

theorem slice_eq (content : Array UInt8) (pos n : Nat) :
    slice content pos n = (content.toList.drop pos).take n := by
  simp [slice, List.extract_eq_take_drop]

theorem length_slice (content : Array UInt8) (pos n : Nat) :
    (slice content pos n).length = min n (content.size - pos) := by
  simp [slice_eq]

theorem length_zeros (n : Nat) : (zeros n).length = n := by simp [zeros]

theorem overlay_nil (buffer : Bytes) : overlay buffer [] = buffer := by simp [overlay]

theorem length_overlay (buffer placed : Bytes) (h : placed.length ≤ buffer.length) :
    (overlay buffer placed).length = buffer.length := by
  simp [overlay]; omega

theorem take_overlay (buffer placed : Bytes) : (overlay buffer placed).take placed.length = placed := by
  simp [overlay]

theorem drop_overlay (buffer placed : Bytes) :
    (overlay buffer placed).drop placed.length = buffer.drop placed.length := by
  simp [overlay]

theorem untilNul_cons (x : UInt8) (b : Bytes) :
    untilNul (x :: b) = if x = 0 then [] else x :: untilNul b := by
  by_cases h : x = 0 <;> simp [untilNul, h]

theorem untilNul_eq_self {b : Bytes} (h : 0 ∉ b) : untilNul b = b := by
  induction b with
  | nil => rfl
  | cons x b ih =>
    simp only [List.mem_cons, not_or] at h
    rw [untilNul_cons, if_neg (Ne.symm h.1), ih h.2]

theorem zero_not_mem_untilNul (b : Bytes) : 0 ∉ untilNul b := by
  induction b with
  | nil => simp [untilNul]
  | cons x b ih =>
    rw [untilNul_cons]
    split
    · simp
    · simp [ih, Ne.symm ‹_›]

end Bytes
end ScriptStreams
