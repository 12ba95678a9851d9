import ScriptStreams.Source
import ScriptStreams.Proofs.Loading
import Mathlib.Tactic.ByContra
/-!
# What a load replaces

A load is to replace the ranges it shares an address with, and nothing else (`AddressSpace.Replaces`). It
does, wherever the new range lies against the stored ones, but for one case: a load of no addresses
shares none, and still takes away the range that it falls inside of (`replaces_load_iff`).
-/
namespace ScriptStreams

variable {σ : Type}

namespace LoadedRange

/-- The range and `start..stop` have an address in common. -/
def Meets (r : LoadedRange) (start stop : Nat) : Prop := ∃ addr, r.contains addr = true ∧ start ≤ addr ∧ addr < stop

/-- `addr` lies in the range, with an address of the range before it. -/
def Surrounds (r : LoadedRange) (addr : Nat) : Prop := r.start < addr ∧ addr < r.stop

variable {r : LoadedRange} {start stop addr : Nat}

theorem contains_iff : r.contains addr = true ↔ r.start ≤ addr ∧ addr < r.stop := by simp [contains]

theorem meets_iff : r.Meets start stop ↔ r.start < stop ∧ start < r.stop ∧ r.start < r.stop ∧ start < stop := by
  constructor
  · rintro ⟨addr, hc, h1, h2⟩
    rw [contains_iff] at hc
    omega
  · rintro ⟨h1, h2, h3, h4⟩
    -- the first address that is in both
    exact ⟨max r.start start, contains_iff.2 (by omega), by omega, by omega⟩

/-- The comparisons of the code say that an address is shared, or that an empty span lies inside. -/
theorem overlaps_iff (nonempty : r.start < r.stop) (ordered : start ≤ stop) :
    r.overlaps start stop = true ↔ r.Meets start stop ∨ (start = stop ∧ r.Surrounds start) := by
  rw [meets_iff, Surrounds, overlaps, Bool.and_eq_true, decide_eq_true_eq, decide_eq_true_eq]
  omega

end LoadedRange

namespace AddressSpace

variable {a : Allocator} {d : Device σ} {space : AddressSpace} {filePos : Int} {start stop : Nat} {patchable : Bool} {s : σ}

/-- Afterwards there are the ranges from before that share no address with the new one, and the new one
unless it is empty. -/
def Replaces (before after : AddressSpace) (new : LoadedRange) : Prop :=
  ∀ x, x ∈ after ↔ (x ∈ before ∧ ¬ x.Meets new.start new.stop) ∨ (new.start < new.stop ∧ x = new)

/-- Ranges that have an address in common are one. -/
theorem WellFormed.eq_of_contains (h : space.WellFormed) {r r' : LoadedRange} (hr : r ∈ space) (hr' : r' ∈ space)
    {addr : Nat} (hc : r.contains addr = true) (hc' : r'.contains addr = true) : r = r' := by
  rw [LoadedRange.contains_iff] at hc hc'
  obtain ⟨i, hi, rfl⟩ := List.getElem_of_mem hr
  obtain ⟨j, hj, rfl⟩ := List.getElem_of_mem hr'
  have ordered := List.pairwise_iff_getElem.1 h.ordered
  rcases Nat.lt_trichotomy i j with hij | rfl | hij
  · have := ordered i j hi hj hij
    omega
  · rfl
  · have := ordered j i hj hi hij
    omega

theorem replaces_replace_iff {new : LoadedRange} (h : space.WellFormed) (ordered : new.start ≤ new.stop) :
    Replaces space (space.replace new) new ↔ ¬ (new.start = new.stop ∧ ∃ r ∈ space, r.Surrounds new.start) := by
  constructor
  · rintro law ⟨empty, r, hr, surrounds⟩
    have overlaps := (LoadedRange.overlaps_iff (h.whole r hr).1 ordered).2 (.inr ⟨empty, surrounds⟩)
    have apart : ¬ r.Meets new.start new.stop := by
      rw [LoadedRange.meets_iff]
      omega
    have dropped := (mem_replace.1 ((law r).2 (.inl ⟨hr, apart⟩)))
    rw [overlaps] at dropped
    rcases dropped with ⟨-, hf⟩ | ⟨hlt, -⟩
    · cases hf
    · omega
  · intro none x
    rw [mem_replace]
    refine or_congr (and_congr_right fun hx => ?_) Iff.rfl
    have overlaps := LoadedRange.overlaps_iff (h.whole x hx).1 ordered
    rw [← Bool.not_eq_true, overlaps]
    have : ¬ (new.start = new.stop ∧ x.Surrounds new.start) := fun ⟨empty, hs⟩ => none ⟨empty, x, hx, hs⟩
    simp [this]

/-- An empty range that falls inside a stored one takes just that one away. -/
theorem mem_replace_of_surrounds {new r x : LoadedRange} (h : space.WellFormed) (empty : new.start = new.stop)
    (hr : r ∈ space) (surrounds : r.Surrounds new.start) : x ∈ space.replace new ↔ x ∈ space ∧ x ≠ r := by
  have lies : r.contains new.start = true := LoadedRange.contains_iff.2 ⟨Nat.le_of_lt surrounds.1, surrounds.2⟩
  have nothing_new : ¬ (new.start < new.stop ∧ x = new) := by omega
  rw [mem_replace, or_iff_left nothing_new]
  refine and_congr_right fun hx => ?_
  rw [LoadedRange.overlaps_eq_false]
  constructor
  · rintro apart rfl
    have := surrounds.1
    have := surrounds.2
    omega
  · intro other
    by_contra overlaps
    refine other (h.eq_of_contains hx hr (LoadedRange.contains_iff.2 ?_) lies)
    omega

/-- **A load replaces exactly what it overlaps**, except when it loads no addresses at a place inside a
stored range. Then that range, of which it shares no address, is gone, and all others are left. -/
theorem replaces_load_iff (reachable : space.Reachable) (a : Allocator) (d : Device σ) (filePos : Int)
    (start stop : Nat) (patchable : Bool) (s : σ) (loaded : (space.load a d filePos start stop patchable s).1.status = 1) :
    let new := rangeFrom d filePos start stop patchable s
    let after := (space.load a d filePos start stop patchable s).2.1
    start ≤ stop ∧ new.bytes.length = stop - start ∧ after.WellFormed ∧
      (Replaces space after new ↔ ¬ (start = stop ∧ ∃ r ∈ space, r.Surrounds start)) ∧
      (start = stop → ∀ r ∈ space, r.Surrounds start → ∀ x, x ∈ after ↔ x ∈ space ∧ x ≠ r) := by
  intro new after
  have loads := status_load_eq_one.1 loaded
  have wellFormed := reachable.wellFormed
  have replaced : after = space.replace new := (load_of_loads loads).2
  refine ⟨loads.ordered, loads.delivered, wellFormed.load a d filePos start stop patchable s, ?_, ?_⟩
  · rw [replaced]
    exact replaces_replace_iff wellFormed loads.ordered
  · intro empty r hr surrounds x
    rw [replaced]
    exact mem_replace_of_surrounds wellFormed empty hr surrounds

/-- A file of sixteen bytes, read from its beginning. -/
def sixteenBytes : Source × Environment :=
  (.file 0 0, { files := { contents := [(0, (Bytes.counting 48 16).toArray)] } })

/-- The first eight bytes of the file loaded at address 256. -/
def eightLoaded : AddressSpace := (load .ample Source.device [] 0 256 264 false sixteenBytes).2.1

theorem reachable_eightLoaded : eightLoaded.Reachable := .load .ample Source.device 0 256 264 false sixteenBytes .empty

theorem replaces_load_iff_eightLoaded :
    Replaces eightLoaded (eightLoaded.load .ample Source.device 4 260 270 true sixteenBytes).2.1
      (rangeFrom Source.device 4 260 270 true sixteenBytes) :=
  (replaces_load_iff reachable_eightLoaded .ample Source.device 4 260 270 true sixteenBytes (by decide)).2.2.2.1.2 (by simp)

/-- Loading nothing into the middle of a range drops the range. -/
theorem not_replaces_load_empty :
    (eightLoaded.load .ample Source.device 0 260 260 false sixteenBytes).1.status = 1 ∧
      ¬ Replaces eightLoaded (eightLoaded.load .ample Source.device 0 260 260 false sixteenBytes).2.1
        (rangeFrom Source.device 0 260 260 false sixteenBytes) := by
  refine ⟨by decide, fun law => ?_⟩
  have stored : eightLoaded = [⟨256, 264, Bytes.counting 48 8, none⟩] := by decide
  have empty : (eightLoaded.load .ample Source.device 0 260 260 false sixteenBytes).2.1 = [] := by decide
  have kept := (law ⟨256, 264, Bytes.counting 48 8, none⟩).2
  rw [empty, stored, LoadedRange.meets_iff] at kept
  simp [rangeFrom] at kept

end AddressSpace
end ScriptStreams
