import ScriptStreams.Memory
/-!
# How far copying gets

Whatever is mapped, overlapping or hidden segments too, copying and measuring go from segment to segment in the same
way: a copy takes what is asked for or all of the extent, whichever is less (`Image.length_read`), and behind the extent
nothing is found (`Image.extent_behind`).
-/
namespace ScriptStreams

namespace Image

variable {img : Image} {addr n : Nat} {s : Segment} {offset : Nat}

/-! ## One segment of the extent -/

theorem extent_of_limit (outside : addressLimit ≤ addr) : img.extent addr = 0 := by
  rw [extent, if_pos outside]

theorem extent_of_none (unmapped : img.locate? addr = none) : img.extent addr = 0 := by
  rw [extent]
  split
  · rfl
  · split
    · rfl
    · next found => rw [unmapped] at found; cases found

theorem extent_of_some (inside : addr < addressLimit) (located : img.locate? addr = some (s, offset)) :
    img.extent addr = s.bytes.size - offset + img.extent (addr + (s.bytes.size - offset)) := by
  rw [extent, if_neg (Nat.not_le.2 inside)]
  split
  · next unmapped => rw [located] at unmapped; cases unmapped
  · next found => rw [located] at found; cases found; rfl

/-! ## All of it -/

theorem length_copy {fuel : Nat} (enough : n ≤ fuel) : (img.copy fuel addr n).length = min n (img.extent addr) := by
  induction fuel generalizing addr n with
  | zero =>
    obtain rfl : n = 0 := by omega
    simp [copy]
  | succ fuel ih =>
    unfold copy
    split
    · next stop =>
      rcases stop with rfl | outside
      · simp
      · simp [extent_of_limit outside]
    · next go =>
      cases located : img.locate? addr with
      | none => simp [extent_of_none located]
      | some found =>
        obtain ⟨s, offset⟩ := found
        have nonempty := locate?_lt located
        have length := Bytes.length_slice s.bytes offset n
        rw [extent_of_some (by omega) located]
        dsimp only
        generalize Bytes.slice s.bytes offset n = bytes at length
        rw [List.length_append, ih (by omega)]
        -- either the segment has all that is asked for, or the copy goes on where it ends
        by_cases within : n ≤ s.bytes.size - offset
        · omega
        · have whole : bytes.length = s.bytes.size - offset := by omega
          rw [whole]
          omega

/-- **A copy** takes what is asked for, or all of the extent. -/
theorem length_read (img : Image) (addr n : Nat) : (img.read addr n).length = min n (img.extent addr) :=
  length_copy (Nat.le_refl n)

/-- Behind the extent there is nothing. -/
theorem extent_behind (img : Image) (addr : Nat) : img.extent (addr + img.extent addr) = 0 := by
  induction addr using extent.induct img with
  | case1 addr outside => simp [extent_of_limit outside]
  | case2 addr inside unmapped => simp [extent_of_none unmapped]
  | case3 addr inside s offset located ih =>
    rw [extent_of_some (Nat.not_le.1 inside) located, ← Nat.add_assoc]
    exact ih

end Image
end ScriptStreams
