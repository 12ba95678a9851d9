import ScriptStreams.Proofs.Answers
import ScriptStreams.Proofs.Windows
/-!
# Reads without a scratch buffer

Reads of data go through a scratch buffer, and strings and quantities ask for more than they read. Where none is to be
had, because the request is over the ceiling, longer than the size type, or of a class that has none to give and that no
memory can be reserved for (`World.Unavailable`), the read is over before it began: there is no data, and the log alone
is different (`Handle.Refused`). With a buffer the stream is asked, in a window. So the buffer alone decides
(`Handle.refused_iff`), whatever the stream, the pool and the allocator are.
-/
namespace ScriptStreams

namespace World

/-- Why there may be no buffer of `n` bytes: they are above the ceiling, no number of the size type, or their class has
none to give and its memory cannot be reserved. -/
def Unavailable (w : World) (n : Nat) : Prop :=
  w.host.config.maxScratch < n ∨ Handle.sizeLimit ≤ n ∨
    w.pool.kept (.forLength n) = [] ∧
      w.allocator.reserves ((Scratch.SizeClass.forLength n).capacity n) = false

instance (w : World) (n : Nat) : Decidable (w.Unavailable n) := inferInstanceAs (Decidable (_ ∨ _ ∨ _ ∧ _))

theorem unavailable_iff {w : World} {n : Nat} : w.Unavailable n ↔ ¬ w.grants n = true := by
  have addressable : w.grants n = true → n < Handle.sizeLimit := fun granted =>
    Nat.lt_of_le_of_lt (Scratch.Pool.le_of_grants granted) (by decide)
  unfold Unavailable
  constructor
  · rintro (above | huge | ⟨kept, refused⟩) granted
    · exact Nat.not_le.2 above (Scratch.Pool.grants_iff.1 granted).1
    · exact Nat.not_lt.2 huge (addressable granted)
    · rcases (Scratch.Pool.grants_iff.1 granted).2 with some_kept | reserved
      · exact some_kept kept
      · rw [refused] at reserved
        cases reserved
  · intro refused
    by_cases above : w.host.config.maxScratch < n
    · exact .inl above
    · refine .inr (.inr ?_)
      by_contra available
      refine refused (Scratch.Pool.grants_iff.2 ⟨Nat.not_lt.1 above, ?_⟩)
      simpa [or_iff_not_imp_left] using available

end World

namespace Handle

/-- No data, and of the world the log alone is different. -/
def Refused (w : World) (x : Except StreamError (Option Bytes) × World) : Prop :=
  x.1 = .ok none ∧ x.2 = { w with log := x.2.log }

variable {h : Handle} {r : StreamRef} {n : Nat} {w : World}

theorem withScratch_of_not_grants (refused : ¬ w.grants n = true)
    (f : Scratch.Buffer → World → Option Bytes × Scratch.Buffer × World) :
    withScratch n w f = (none, w.note .scratchRefused) := by
  obtain ⟨e, acquired⟩ := Scratch.Pool.acquire_of_not_grants refused
  rw [withScratch, acquired]

/-- Where a window was opened the world is another. -/
theorem not_refused_of_works {x : Except StreamError (Option Bytes) × World} {t : Traffic} (works : Works t w x.2)
    (opened : 0 < t.windows) : ¬ Refused w x := by
  rintro ⟨-, same⟩
  have windows := works.windows
  rw [same] at windows
  dsimp only at windows
  omega

/-- An operation that is refused for want of a buffer of `n` bytes, and opens a window when there is one. -/
theorem refused_iff_unavailable {x : Except StreamError (Option Bytes) × World} {t : Traffic} (works : Works t w x.2)
    (without : ¬ w.grants n = true → Refused w x) (opens : w.grants n = true → 0 < t.windows) :
    Refused w x ↔ w.Unavailable n := by
  rw [World.unavailable_iff]
  exact ⟨fun refused granted => not_refused_of_works works (opens granted) refused, without⟩

/-- A request with guard bytes opens its window once they are granted; what can be granted is a number of the size
type. -/
theorem windows_guarded (ref : h.ref? = some r) (granted : w.grants (n + scratchGuard) = true) :
    0 < if h.isOpen && n + scratchGuard < sizeLimit && w.grants (n + scratchGuard) then 1 else 0 := by
  have short : n + scratchGuard < sizeLimit := Nat.not_le.1 fun huge => not_grants_of_huge huge w granted
  simp [isOpen_eq_isSome, ref, short, granted]

theorem refused_read_iff (ref : h.ref? = some r) :
    Refused w (h.read n w) ↔ w.Unavailable n := by
  refine refused_iff_unavailable (h.works_read n w) (fun short => ?_) fun granted => ?_
  · simp only [read, ref, withScratch_of_not_grants short]
    exact ⟨rfl, rfl⟩
  · simp [ReadStep.windows, isOpen_eq_isSome, ref, granted]

theorem refused_readLine_iff (ref : h.ref? = some r) :
    Refused w (h.readLine n w) ↔ w.Unavailable n := by
  refine refused_iff_unavailable (h.works_readLine n w) (fun short => ?_) fun granted => ?_
  · simp only [readLine, ref, withScratch_of_not_grants short]
    exact ⟨rfl, rfl⟩
  · simp [ReadStep.windows, isOpen_eq_isSome, ref, granted]

/-- A string has no seek behind it either. -/
theorem refused_readCString_iff (ref : h.ref? = some r) (pos : Option Int) :
    Refused w (h.readCString n pos w) ↔ w.Unavailable (n + scratchGuard) := by
  refine refused_iff_unavailable (h.works_readCString n pos w) (fun short => ?_) (windows_guarded ref)
  simp only [readCString, ref, withScratch_of_not_grants short]
  -- a request that is too long for the size type ends before the pool is asked, with nothing to log
  split <;> exact ⟨rfl, rfl⟩

theorem refused_readSwapped_iff (ref : h.ref? = some r) (bigEndian : Bool) :
    Refused w (h.readSwapped n bigEndian w) ↔ w.Unavailable (n + scratchGuard) := by
  refine refused_iff_unavailable (h.works_readSwapped n bigEndian w) (fun short => ?_) (windows_guarded ref)
  simp only [readSwapped, ref, withScratch_of_not_grants short]
  split <;> exact ⟨rfl, rfl⟩

/-- **Reads without a scratch buffer.** On a handle that is open, whatever its stream, the pool, the ceiling and the
allocator: reading `n` bytes or a line for `n` bytes is refused just if there is no buffer of `n` bytes, and reading a
string, from wherever it is, or a quantity, in whichever order, just if there is none of `n + scratchGuard`. There is none
above the ceiling, none that is no number of the size type, and none where the class has none to give and no memory can
be reserved, for requests of any length. Where a read is refused there is no data and no error, and of the whole world,
streams and their positions, the table, values, calls, windows and the pool, the log alone is different. -/
theorem refused_iff (ref : h.ref? = some r) (w : World) (n : Nat) (pos : Option Int) (bigEndian : Bool) :
    (Refused w (h.read n w) ↔ w.Unavailable n) ∧
      (Refused w (h.readLine n w) ↔ w.Unavailable n) ∧
      (Refused w (h.readCString n pos w) ↔ w.Unavailable (n + scratchGuard)) ∧
      (Refused w (h.readSwapped n bigEndian w) ↔ w.Unavailable (n + scratchGuard)) :=
  ⟨refused_read_iff ref, refused_readLine_iff ref, refused_readCString_iff ref pos,
    refused_readSwapped_iff ref bigEndian⟩

/-- A world with one stream, over memory that is not mapped. -/
def unmapped : World := (({} : World).register .created (.window ⟨0, 16, 3⟩)).2

/-- Four bytes below the ceiling a string is refused before the seek to its position, and plain bytes are read. Where
less than a small buffer can be reserved a single byte is refused, unless the pool has a buffer to give. -/
theorem refused_below_ceiling :
    let h := borrow .first
    let n := Config.defaultMaxScratch - 4
    let scarce := { unmapped with allocator := .upTo 1000 }
    let stocked := { scarce with pool := { small := [{ size := Scratch.smallSize, front_le := Nat.zero_le _ }] } }
    h.ref? = some .first ∧ Refused unmapped (h.readCString n (some 0) unmapped) ∧
      ¬ Refused unmapped (h.read n unmapped) ∧ Refused scarce (h.read 1 scarce) ∧
      ¬ Refused stocked (h.read 1 stocked) := by
  intro h n scarce stocked
  have ref : h.ref? = some .first := rfl
  obtain ⟨read, -, string, -⟩ := refused_iff ref unmapped n (some 0) false
  have above : unmapped.Unavailable (n + scratchGuard) := by decide
  have within : ¬ unmapped.Unavailable n := by decide
  have unreserved : scarce.Unavailable 1 := by decide
  have kept : ¬ stocked.Unavailable 1 := by decide
  exact ⟨ref, string.2 above, fun refused => within (read.1 refused), (refused_iff ref scarce 1 none false).1.2 unreserved,
    fun refused => kept ((refused_iff ref stocked 1 none false).1.1 refused)⟩

end Handle
end ScriptStreams
