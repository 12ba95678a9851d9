import ScriptStreams.AddressSpace
/-!
# When a load succeeds and what the address space is then

`AddressSpace.Loads` is what a load asks of the stream: to reach the position, not to be too short, and
to deliver the bytes. A load that has all this puts its range in place; any other leaves the address
space alone. The ranges of an address space that came about by loads are disjoint, in order, not empty
and as long as their bytes (`WellFormed`).
-/
namespace ScriptStreams

variable {σ : Type}

/-! ## Full reads -/

/-- The bytes that one answer counts for in a full read of `want` more bytes. -/
def Transfer.credited (t : Transfer) (want : Nat) : Bytes :=
  t.bytes.take (min want t.count.toNat) ++ Bytes.zeros (min want t.count.toNat - t.bytes.length)

theorem Transfer.length_credited (t : Transfer) (want : Nat) :
    (t.credited want).length = min want t.count.toNat := by
  simp only [credited, List.length_append, List.length_take, Bytes.length_zeros]
  omega

/-- An answer that counts its bytes counts for them. -/
theorem Transfer.credited_of_counted {t : Transfer} {want : Nat} (counted : t.count = t.bytes.length)
    (short : t.bytes.length ≤ want) : t.credited want = t.bytes := by
  rw [credited, counted, Int.toNat_natCast, Nat.min_eq_right short, List.take_length, Nat.sub_self]
  exact List.append_nil _

namespace Device

variable (d : Device σ)

theorem readFull_succ (fuel want : Nat) (s : σ) :
    d.readFull (fuel + 1) want s =
      if want = 0 then ([], s)
      else if (d.read want s).1.count ≤ 0 then ([], (d.read want s).2)
      else
        let chunk := (d.read want s).1.credited want
        let rest := d.readFull fuel (want - chunk.length) (d.read want s).2
        (chunk ++ rest.1, rest.2) := rfl

theorem length_readFull_le (fuel want : Nat) (s : σ) : (d.readFull fuel want s).1.length ≤ want := by
  induction fuel generalizing want s with
  | zero => simp [readFull]
  | succ fuel ih =>
    rw [readFull_succ]
    split
    · simp
    · split
      · simp
      · have rest := ih (want - ((d.read want s).1.credited want).length) (d.read want s).2
        have chunk := (d.read want s).1.length_credited want
        simp only [List.length_append]
        omega

end Device

/-! ## Ranges -/

namespace LoadedRange

/-- The range is not empty and has a byte for each address. -/
def Whole (r : LoadedRange) : Prop := r.start < r.stop ∧ r.bytes.length = r.stop - r.start

theorem overlaps_eq_false {r : LoadedRange} {start stop : Nat} :
    r.overlaps start stop = false ↔ stop ≤ r.start ∨ r.stop ≤ start := by
  simp only [overlaps, Bool.and_eq_false_iff, decide_eq_false_iff_not]
  omega

end LoadedRange

namespace AddressSpace

/-! ## The outcome of a load -/

/-- What it takes to load `start..stop` from `filePos` on. The size is looked at after the seek, and a size
that leaves less than nothing behind `filePos` is not held against the load. -/
structure Loads (a : Allocator) (d : Device σ) (filePos : Int) (start stop : Nat) (s : σ) : Prop where
  ordered : start ≤ stop
  reached : (d.seek filePos .start s).1 = filePos
  inSize : 0 ≤ saturatingSub (d.size (d.seek filePos .start s).2) filePos →
    (stop - start : Nat) ≤ saturatingSub (d.size (d.seek filePos .start s).2) filePos
  reservable : a.reserves (stop - start) = true
  delivered : (d.readFull (stop - start) (stop - start) (d.seek filePos .start s).2).1.length = stop - start

/-- The range that a load puts in place. -/
def rangeFrom (d : Device σ) (filePos : Int) (start stop : Nat) (patchable : Bool) (s : σ) : LoadedRange where
  start := start
  stop := stop
  bytes := (d.readFull (stop - start) (stop - start) (d.seek filePos .start s).2).1
  filePos := if patchable then some filePos else none

variable {a : Allocator} {d : Device σ} {space : AddressSpace} {filePos : Int} {start stop : Nat} {patchable : Bool} {s : σ}

theorem load_eq_of_loads (h : Loads a d filePos start stop s) :
    space.load a d filePos start stop patchable s =
      (.loaded, space.replace (rangeFrom d filePos start stop patchable s),
        (d.readFull (stop - start) (stop - start) (d.seek filePos .start s).2).2) := by
  have ordered : ¬ stop < start := by have := h.ordered; omega
  have inSize : ¬ (0 ≤ saturatingSub (d.size (d.seek filePos .start s).2) filePos ∧
      saturatingSub (d.size (d.seek filePos .start s).2) filePos < (stop - start : Nat)) := by
    rintro ⟨h0, hlt⟩
    have := h.inSize h0
    omega
  have delivered : ¬ (d.readFull (stop - start) (stop - start) (d.seek filePos .start s).2).1.length < stop - start := by
    have := h.delivered
    omega
  simp [load, ordered, h.reached, inSize, h.reservable, delivered, rangeFrom]

theorem load_of_loads (h : Loads a d filePos start stop s) :
    (space.load a d filePos start stop patchable s).1 = .loaded ∧
      (space.load a d filePos start stop patchable s).2.1 = space.replace (rangeFrom d filePos start stop patchable s) := by
  rw [load_eq_of_loads h]
  exact ⟨rfl, rfl⟩

/-- **A load that is refused or fails** leaves every range as it was. -/
theorem load_of_not_loads (h : ¬ Loads a d filePos start stop s) :
    (space.load a d filePos start stop patchable s).1.status = 0 ∧
      (space.load a d filePos start stop patchable s).2.1 = space := by
  rw [load]
  split
  · exact ⟨rfl, rfl⟩
  · next ordered =>
    dsimp only
    split
    · exact ⟨rfl, rfl⟩
    · next reached =>
      split
      · exact ⟨rfl, rfl⟩
      · next inSize =>
        split
        · exact ⟨rfl, rfl⟩
        · next reservable =>
          split
          · exact ⟨rfl, rfl⟩
          · next delivered =>
            have enough := d.length_readFull_le (stop - start) (stop - start) (d.seek filePos .start s).2
            refine absurd ⟨by omega, by simpa using reached, ?_, ?_, Nat.le_antisymm enough (Nat.not_lt.1 delivered)⟩ h
            · intro h0
              exact Int.not_lt.1 fun hlt => inSize ⟨h0, hlt⟩
            · simpa using reservable

theorem status_load_eq_one :
    (space.load a d filePos start stop patchable s).1.status = 1 ↔ Loads a d filePos start stop s := by
  by_cases h : Loads a d filePos start stop s
  · simp [(load_of_loads h).1, h, LoadOutcome.status]
  · simp [(load_of_not_loads h).1, h]

/-! ## Replacement -/

theorem mem_insert {new x : LoadedRange} : x ∈ insert new space ↔ x = new ∨ x ∈ space := by
  induction space with
  | nil => simp [insert]
  | cons r rest ih =>
    unfold insert
    split
    · simp
    · simp only [List.mem_cons, ih]
      exact or_left_comm

theorem mem_replace {new x : LoadedRange} :
    x ∈ space.replace new ↔
      (x ∈ space ∧ x.overlaps new.start new.stop = false) ∨ (new.start < new.stop ∧ x = new) := by
  unfold replace
  dsimp only
  split
  · next h => rw [mem_insert]; simp [h, or_comm]
  · next h => simp [h]

/-! ## Well-formed address spaces -/

structure WellFormed (space : AddressSpace) : Prop where
  ordered : space.Pairwise fun a b => a.stop ≤ b.start
  whole : ∀ r ∈ space, r.Whole

theorem wellFormed_nil : WellFormed [] := ⟨.nil, by simp⟩

theorem WellFormed.insert {new : LoadedRange} (h : space.WellFormed) (whole : new.Whole)
    (apart : ∀ r ∈ space, r.overlaps new.start new.stop = false) : (space.insert new).WellFormed := by
  refine ⟨?_, fun r hr => ?_⟩
  · have ordered := h.ordered
    have filled := h.whole
    clear h
    induction space with
    | nil => simp [AddressSpace.insert]
    | cons r rest ih =>
      obtain ⟨first, later⟩ := List.pairwise_cons.1 ordered
      have beside := LoadedRange.overlaps_eq_false.1 (apart r (by simp))
      have lengths := whole.1
      have lengths' := (filled r (by simp)).1
      unfold AddressSpace.insert
      split
      · next before =>
        refine List.pairwise_cons.2 ⟨fun b hb => ?_, ordered⟩
        rcases List.mem_cons.1 hb with rfl | hb
        · omega
        · have := first b hb
          omega
      · next after =>
        refine List.pairwise_cons.2 ⟨fun b hb => ?_, ?_⟩
        · rcases mem_insert.1 hb with rfl | hb
          · omega
          · exact first b hb
        · exact ih (fun r hr => apart r (by simp [hr])) later fun r hr => filled r (by simp [hr])
  · rcases mem_insert.1 hr with rfl | hr
    · exact whole
    · exact h.whole r hr

theorem WellFormed.replace {new : LoadedRange} (h : space.WellFormed) (whole : new.start < new.stop → new.Whole) :
    (space.replace new).WellFormed := by
  have kept : WellFormed (space.filter fun r => !r.overlaps new.start new.stop) :=
    ⟨h.ordered.filter _, fun r hr => h.whole r (List.mem_filter.1 hr).1⟩
  unfold AddressSpace.replace
  dsimp only
  split
  · next hlt =>
    refine kept.insert (whole hlt) fun r hr => ?_
    simpa using (List.mem_filter.1 hr).2
  · exact kept

theorem WellFormed.load (h : space.WellFormed) (a : Allocator) (d : Device σ) (filePos : Int) (start stop : Nat)
    (patchable : Bool) (s : σ) : (space.load a d filePos start stop patchable s).2.1.WellFormed := by
  by_cases hl : Loads a d filePos start stop s
  · rw [(load_of_loads hl).2]
    exact h.replace fun hlt => ⟨hlt, hl.delivered⟩
  · rw [(load_of_not_loads hl).2]
    exact h

/-- An address space that came about by loads, each from whatever stream and with whatever memory there was. -/
inductive Reachable : AddressSpace → Prop where
  | empty : Reachable []
  | load {space : AddressSpace} {σ : Type} (a : Allocator) (d : Device σ) (filePos : Int) (start stop : Nat)
      (patchable : Bool) (s : σ) : Reachable space → Reachable (space.load a d filePos start stop patchable s).2.1

theorem Reachable.wellFormed (h : Reachable space) : space.WellFormed := by
  induction h with
  | empty => exact wellFormed_nil
  | load a d filePos start stop patchable s _ ih => exact ih.load a d filePos start stop patchable s

end AddressSpace
end ScriptStreams
