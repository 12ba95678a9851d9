import Mathlib.Data.List.Pairwise
import ScriptStreams.Proofs.ByteMap
/-!
# What mapping leaves readable

Mapping a segment is to change nothing at addresses that it does not have itself, if it shares none with the segments it
does not replace. But the segment that is looked at for an address is the one that starts last at it or below, whether it
reaches the address or not. So a segment without bytes, which shares an address with none, hides all of another one from
where it starts, and this is the only way to hide anything (`Image.keeps_map_iff`).
-/
namespace ScriptStreams

/-- The new segment has no bytes and starts inside of `s`, in front of the address or at it. -/
def Segment.HiddenBy (s new : Segment) (addr : Nat) : Prop :=
  new.bytes.size = 0 ∧ s.start < new.start ∧ new.start ≤ addr

namespace Image

variable {img : Image} {addr start offset : Nat} {b : UInt8} {bytes : Array UInt8} {s t : Segment}

/-! ## The segments afterwards -/

/-- Mapping puts one segment in, and out the one that started at the same place. -/
theorem mem_map_iff (ordered : img.Pairwise fun a b => a.start < b.start) :
    t ∈ img.map start bytes ↔ t = ⟨start, bytes⟩ ∨ t ∈ img ∧ t.start ≠ start := by
  induction img with
  | nil => simp [map]
  | cons s rest ih =>
    obtain ⟨first, later⟩ := List.pairwise_cons.1 ordered
    unfold map
    split
    · next before =>
      have kept : t ∈ s :: rest → t.start ≠ start := by
        intro listed
        rcases List.mem_cons.1 listed with rfl | listed
        · omega
        · have := first t listed
          omega
      rw [List.mem_cons, and_iff_left_of_imp kept]
    · split
      · next same =>
        have kept : t ∈ rest → t.start ≠ start := by
          intro listed
          have := first t listed
          omega
        rw [List.mem_cons, List.mem_cons, or_and_right, and_iff_left_of_imp kept]
        refine or_congr_right (or_iff_right ?_).symm
        rintro ⟨rfl, elsewhere⟩
        exact elsewhere same.symm
      · next behind different =>
        have kept : t = s → t.start ≠ start := by
          rintro rfl
          exact Ne.symm different
        rw [List.mem_cons, ih later, List.mem_cons, or_and_right, and_iff_left_of_imp kept]
        exact or_left_comm

/-- The same segment is found, unless the new one starts behind its start and in front of the address or at it. -/
theorem Built.locate?_map (built : img.Built) (located : img.locate? addr = some (s, offset)) (kept : s.start ≠ start)
    (elsewhere : ¬ (s.start < start ∧ start ≤ addr)) (bytes : Array UInt8) :
    (img.map start bytes).locate? addr = some (s, offset) := by
  obtain ⟨hs, covers, at_offset, latest⟩ := built.locate?_eq_some_iff.1 located
  refine (built.map start bytes).locate?_eq_some_iff.2 ⟨?_, covers, at_offset, fun t ht lower => ?_⟩
  · exact (mem_map_iff built.ordered).2 (.inr ⟨hs, kept⟩)
  · rcases (mem_map_iff built.ordered).1 ht with rfl | ⟨ht, -⟩
    · dsimp only at lower ⊢
      omega
    · exact latest t ht lower

/-- Nothing is found behind the start of an empty segment, up to the next segment. -/
theorem Built.locate?_map_of_hiddenBy (built : img.Built) (located : img.locate? addr = some (s, offset))
    (hidden : s.HiddenBy ⟨start, bytes⟩ addr) : (img.map start bytes).locate? addr = none := by
  obtain ⟨-, -, -, latest⟩ := built.locate?_eq_some_iff.1 located
  obtain ⟨empty, behind, lower⟩ := hidden
  dsimp only at empty behind lower
  refine Option.eq_none_iff_forall_ne_some.2 fun ⟨t, offset'⟩ found => ?_
  obtain ⟨ht, covers, -, latest'⟩ := (built.map start bytes).locate?_eq_some_iff.1 found
  rcases (mem_map_iff built.ordered).1 ht with rfl | ⟨ht, -⟩
  · unfold Segment.Covers at covers
    dsimp only at covers
    omega
  · have not_before : start ≤ t.start := latest' ⟨start, bytes⟩ ((mem_map_iff built.ordered).2 (.inl rfl)) lower
    have not_behind := latest t ht covers.1
    omega

/-! ## Single bytes -/

theorem read_one (inside : addr < addressLimit) (located : img.locate? addr = some (s, offset)) :
    img.read addr 1 = Bytes.slice s.bytes offset 1 := by
  simp [read, copy, located, Nat.not_le.2 inside]

theorem exists_located_of_read_one (readable : img.read addr 1 = [b]) :
    addr < addressLimit ∧ ∃ s offset, img.locate? addr = some (s, offset) := by
  have some_mapped : img.extent addr ≠ 0 := by
    intro none_mapped
    have length := img.length_read addr 1
    rw [readable, none_mapped] at length
    cases length
  refine ⟨?_, ?_⟩
  · by_contra outside
    exact some_mapped (extent_of_limit (Nat.not_lt.1 outside))
  · cases located : img.locate? addr with
    | none => exact absurd (extent_of_none located) some_mapped
    | some found => exact ⟨found.1, found.2, rfl⟩

/-- A readable address is found in its own segment. -/
theorem Built.locate?_of_read_one (built : img.Built)
    (disjoint : img.Pairwise fun a b => ∀ addr, ¬ (a.Covers addr ∧ b.Covers addr)) (readable : img.read addr 1 = [b])
    (hs : s ∈ img) (own : s.Covers addr) : img.locate? addr = some (s, addr - s.start) := by
  obtain ⟨-, t, offset, located⟩ := exists_located_of_read_one readable
  obtain ⟨ht, covers, rfl, -⟩ := built.locate?_eq_some_iff.1 located
  have symmetric : Std.Symm fun a b : Segment => ∀ addr, ¬ (a.Covers addr ∧ b.Covers addr) :=
    ⟨fun a b apart addr both => apart addr both.symm⟩
  obtain rfl : t = s := by
    by_contra different
    exact disjoint.forall ht hs different addr ⟨covers, own⟩
  exact located

/-! ## Before and after -/

/-- **What mapping leaves readable.** Let the segments of an image share no address, and a new one, empty or not, none
with those that it does not replace. An address that was readable and is not in the replaced segment gives the same byte
afterwards, and the extent from it on reaches at least to the end of its segment, if and only if the new segment is not an
empty one that starts inside of that segment, in front of the address or at it. Otherwise the address is not readable any
more, and nothing is measured there. -/
theorem keeps_map_iff (built : img.Built)
    (disjoint : img.Pairwise fun a b => ∀ addr, ¬ (a.Covers addr ∧ b.Covers addr))
    (apart : ∀ t ∈ img, t.start ≠ start → ∀ addr, ¬ (t.Covers addr ∧ Segment.Covers ⟨start, bytes⟩ addr))
    (readable : img.read addr 1 = [b]) (hs : s ∈ img) (own : s.Covers addr) (kept : s.start ≠ start) :
    let after := img.map start bytes
    (after.read addr 1 = [b] ∧ s.start + s.bytes.size - addr ≤ after.extent addr ↔ ¬ s.HiddenBy ⟨start, bytes⟩ addr) ∧
      (s.HiddenBy ⟨start, bytes⟩ addr → after.read addr 1 = [] ∧ after.extent addr = 0) := by
  intro after
  obtain ⟨inside, -⟩ := exists_located_of_read_one readable
  have located := built.locate?_of_read_one disjoint readable hs own
  have gone : s.HiddenBy ⟨start, bytes⟩ addr → after.read addr 1 = [] ∧ after.extent addr = 0 := by
    intro hidden
    have unmapped := extent_of_none (built.locate?_map_of_hiddenBy located hidden)
    refine ⟨List.length_eq_zero_iff.1 ?_, unmapped⟩
    rw [length_read, unmapped, Nat.min_zero]
  refine ⟨⟨fun ⟨same, _⟩ hidden => ?_, fun unhidden => ?_⟩, gone⟩
  · rw [(gone hidden).1] at same
    cases same
  · -- a segment with bytes that started inside of this one would share its start with it
    have elsewhere : ¬ (s.start < start ∧ start ≤ addr) := by
      rintro ⟨behind, lower⟩
      by_cases empty : bytes.size = 0
      · exact unhidden ⟨empty, behind, lower⟩
      · refine apart s hs kept start ⟨⟨Nat.le_of_lt behind, Nat.lt_of_le_of_lt lower own.2⟩, Nat.le_refl _, ?_⟩
        exact Nat.lt_add_of_pos_right (Nat.pos_of_ne_zero empty)
    have still := built.locate?_map located kept elsewhere bytes
    refine ⟨?_, ?_⟩
    · rw [← readable, read_one inside located, read_one inside still]
    · have := own.1
      rw [extent_of_some inside still]
      omega

/-- Four bytes, and two bytes behind them. -/
def sideBySide : Image := (Image.map 16 #[1, 2, 3, 4] []).map 20 #[5, 6]

/-- An empty segment in place of the second one leaves the first as it is. -/
theorem keeps_map_sideBySide :
    sideBySide.read 18 1 = [3] ∧ (sideBySide.map 20 #[]).read 18 1 = [3] ∧ 2 ≤ (sideBySide.map 20 #[]).extent 18 := by
  have readable : sideBySide.read 18 1 = [3] := by decide
  have built : sideBySide.Built := (Built.empty.map _ _).map _ _
  have listed : (⟨16, #[1, 2, 3, 4]⟩ : Segment) ∈ sideBySide := List.mem_cons_self
  have apart : ∀ t ∈ sideBySide, t.start ≠ 20 → ∀ addr, ¬ (t.Covers addr ∧ Segment.Covers ⟨20, #[]⟩ addr) := by
    rintro t - - addr ⟨-, lower, upper⟩
    exact absurd upper (Nat.not_lt.2 lower)
  obtain ⟨keeps, -⟩ := keeps_map_iff built (disjoint_of_apart (by decide)) apart readable listed ⟨by decide, by decide⟩
    (by decide)
  obtain ⟨same, reaches⟩ := keeps.2 fun hidden => absurd hidden.2.2 (by decide)
  exact ⟨readable, same, reaches⟩

/-- **An empty segment hides** the bytes of another one from where it starts, although it shares no address with it. -/
theorem not_keeps_map_empty :
    sideBySide.Built ∧ sideBySide.Pairwise (fun a b => ∀ addr, ¬ (a.Covers addr ∧ b.Covers addr)) ∧
      (∀ t ∈ sideBySide, t.start ≠ 18 → ∀ addr, ¬ (t.Covers addr ∧ Segment.Covers ⟨18, #[]⟩ addr)) ∧
      sideBySide.read 19 1 = [4] ∧ sideBySide.extent 19 = 3 ∧
      (sideBySide.map 18 #[]).read 19 1 = [] ∧ (sideBySide.map 18 #[]).extent 19 = 0 := by
  refine ⟨(Built.empty.map _ _).map _ _, disjoint_of_apart (by decide), ?_, by decide, by cbv, by decide, by cbv⟩
  rintro t - - addr ⟨-, lower, upper⟩
  exact absurd upper (Nat.not_lt.2 lower)

end Image
end ScriptStreams
