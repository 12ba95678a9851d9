import Mathlib.Algebra.Group.Nat.Defs
import Mathlib.Order.Bounds.Basic
import ScriptStreams.Proofs.Extent
import ScriptStreams.Proofs.Mapped
/-!
# The byte map of an image

The segments of an image are a partial map from addresses to bytes (`Image.byteAt?`). Of an image that mapping and
unmapping make (`Image.Built`), whose segments are not empty, share no address and end within the address space
(`Image.Plain`), a read gives the bytes of this map up to the first address without one, and the extent counts how many
there are (`Image.read_and_extent_isGreatest`).
-/
namespace ScriptStreams

/-- A buffer after a write over its front. -/
theorem Bytes.getElem?_overlay (buffer placed : Bytes) (i : Nat) :
    (overlay buffer placed)[i]? = if i < placed.length then placed[i]? else buffer[i]? := by
  rw [overlay, List.getElem?_append]
  split
  · rfl
  · rw [List.getElem?_drop, Nat.add_sub_cancel' (by omega)]

namespace Segment

def Covers (s : Segment) (addr : Nat) : Prop := s.start ≤ addr ∧ addr < s.start + s.bytes.size

end Segment

namespace Image

/-- Images that mapping and unmapping segments make. -/
inductive Built : Image → Prop where
  | empty : Built []
  | map {img : Image} (start : Nat) (bytes : Array UInt8) : Built img → Built (img.map start bytes)
  | unmap {img : Image} (start : Nat) : Built img → Built (img.unmap start)

/-- Segments that are not empty, share no address and end within the address space. -/
structure Plain (img : Image) : Prop where
  nonempty : ∀ s ∈ img, 0 < s.bytes.size
  disjoint : img.Pairwise fun a b => ∀ addr, ¬ (a.Covers addr ∧ b.Covers addr)
  bounded : ∀ s ∈ img, s.start + s.bytes.size ≤ addressLimit

/-- The byte at an address, if a segment has it. -/
def byteAt? (img : Image) (addr : Nat) : Option UInt8 :=
  img.findSome? fun s => if s.start ≤ addr then s.bytes[addr - s.start]? else none

/-- The bytes from an address on, at most `n` of them and none behind the first address without one. -/
def run (img : Image) (addr : Nat) : Nat → Bytes
  | 0 => []
  | n + 1 => match img.byteAt? addr with
    | some b => b :: img.run (addr + 1) n
    | none => []

/-- The map has a byte at each of the `k` addresses from `addr` on. -/
def Mapped (img : Image) (addr k : Nat) : Prop := ∀ i < k, addr + i < addressLimit ∧ (img.byteAt? (addr + i)).isSome

/-- Bytes of all segments together. -/
def mappedBytes (img : Image) : Nat := img.foldr (fun s total => s.bytes.size + total) 0

variable {img : Image} {addr k n start : Nat} {b : UInt8} {bs : Bytes} {bytes : Array UInt8} {s t : Segment}

/-! ## Segments in order -/

theorem mem_of_mem_map (mapped : t ∈ img.map start bytes) : t = ⟨start, bytes⟩ ∨ t ∈ img := by
  induction img with
  | nil => exact .inl (by simpa [map] using mapped)
  | cons s rest ih =>
    unfold map at mapped
    split at mapped
    · simpa using mapped
    · split at mapped
      · rcases List.mem_cons.1 mapped with new | old
        · exact .inl new
        · exact .inr (List.mem_cons_of_mem s old)
      · rcases List.mem_cons.1 mapped with first | later
        · exact .inr (first ▸ List.mem_cons_self)
        · exact (ih later).imp_right (List.mem_cons_of_mem s)

theorem ordered_map (ordered : img.Pairwise fun a b => a.start < b.start) (start : Nat) (bytes : Array UInt8) :
    (img.map start bytes).Pairwise fun a b => a.start < b.start := by
  induction img with
  | nil => simp [map]
  | cons s rest ih =>
    obtain ⟨first, later⟩ := List.pairwise_cons.1 ordered
    unfold map
    split
    · next before =>
      refine List.pairwise_cons.2 ⟨fun t listed => ?_, ordered⟩
      rcases List.mem_cons.1 listed with rfl | listed
      · exact before
      · exact Nat.lt_trans before (first t listed)
    · split
      · next same => exact List.pairwise_cons.2 ⟨fun t listed => same ▸ first t listed, later⟩
      · refine List.pairwise_cons.2 ⟨fun t listed => ?_, ih later⟩
        rcases mem_of_mem_map listed with rfl | old
        · dsimp only
          omega
        · exact first t old

theorem Built.ordered (built : img.Built) : img.Pairwise fun a b => a.start < b.start := by
  induction built with
  | empty => exact .nil
  | map start bytes _ ih => exact ordered_map ih start bytes
  | unmap start _ ih => exact ih.filter _

/-- Of segments in order the last one has the greatest start. -/
theorem getLast?_eq_some_iff (ordered : img.Pairwise fun a b => a.start < b.start) :
    img.getLast? = some s ↔ s ∈ img ∧ ∀ t ∈ img, t.start ≤ s.start := by
  have greatest : ∀ {s}, img.getLast? = some s → s ∈ img ∧ ∀ t ∈ img, t.start ≤ s.start := by
    intro s last
    obtain ⟨front, rfl⟩ := List.getLast?_eq_some_iff.1 last
    refine ⟨by simp, fun t ht => ?_⟩
    rcases List.mem_append.1 ht with before | same
    · exact Nat.le_of_lt ((List.pairwise_append.1 ordered).2.2 t before s (by simp))
    · exact Nat.le_of_eq (congrArg Segment.start (List.mem_singleton.1 same))
  refine ⟨greatest, fun ⟨hs, above⟩ => ?_⟩
  obtain ⟨t, last⟩ : ∃ t, img.getLast? = some t := ⟨_, List.getLast?_eq_some_getLast (List.ne_nil_of_mem hs)⟩
  have same_start : s.start = t.start := Nat.le_antisymm ((greatest last).2 s hs) (above t (greatest last).1)
  obtain ⟨front, rfl⟩ := List.getLast?_eq_some_iff.1 last
  rcases List.mem_append.1 hs with before | same
  · have := (List.pairwise_append.1 ordered).2.2 s before t (by simp)
    omega
  · rw [last, List.mem_singleton.1 same]

/-- The segment that is looked at for an address starts at it or below, and none of those starts later. -/
theorem Built.below?_eq_some_iff (built : img.Built) :
    img.below? addr = some s ↔ s ∈ img ∧ s.start ≤ addr ∧ ∀ t ∈ img, t.start ≤ addr → t.start ≤ s.start := by
  rw [below?, getLast?_eq_some_iff (built.ordered.filter _)]
  simp only [List.mem_filter, decide_eq_true_eq, and_assoc, and_imp]

theorem disjoint_of_apart (apart : img.Pairwise fun a b => a.start + a.bytes.size ≤ b.start) :
    img.Pairwise fun a b => ∀ addr, ¬ (a.Covers addr ∧ b.Covers addr) := by
  refine apart.imp fun {a b} behind addr both => ?_
  unfold Segment.Covers at both
  omega

/-- In order and without a common address, segments lie one behind the other. -/
theorem Plain.tidy (plain : img.Plain) (built : img.Built) : img.Tidy where
  nonempty := plain.nonempty
  apart := by
    refine (built.ordered.and plain.disjoint).imp_of_mem fun {a b} _ hb order => ?_
    obtain ⟨before, disjoint⟩ := order
    have nonempty := plain.nonempty b hb
    by_contra overlapping
    exact disjoint b.start ⟨⟨Nat.le_of_lt before, by omega⟩, ⟨Nat.le_refl _, by omega⟩⟩

/-! ## The map -/

/-- **The map** has the bytes of the segments and no others. -/
theorem Tidy.byteAt?_eq_some_iff (tidy : img.Tidy) : img.byteAt? addr = some b ↔ img.Denotes addr b := by
  have denotes : ∀ {b}, img.byteAt? addr = some b → img.Denotes addr b := by
    intro b found
    obtain ⟨s, hs, at_s⟩ := List.exists_of_findSome?_eq_some found
    split at at_s
    · next lower => exact ⟨s, hs, lower, at_s⟩
    · cases at_s
  refine ⟨denotes, fun denoted => ?_⟩
  cases found : img.byteAt? addr with
  | some b' => rw [tidy.denotes_unique denoted (denotes found)]
  | none =>
    obtain ⟨s, hs, lower, at_s⟩ := denoted
    have absent := List.findSome?_eq_none_iff.1 found s hs
    rw [if_pos lower, at_s] at absent
    cases absent

theorem Tidy.maps_iff (tidy : img.Tidy) :
    img.Maps addr bs ↔ ∀ i b, bs[i]? = some b → img.byteAt? (addr + i) = some b := by
  simp only [Maps, tidy.byteAt?_eq_some_iff]

theorem Plain.inside (plain : img.Plain) (denoted : img.Denotes addr b) : addr < addressLimit := by
  obtain ⟨s, hs, lower, at_s⟩ := denoted
  have upper := (Array.getElem?_eq_some_iff.1 at_s).1
  have := plain.bounded s hs
  omega

theorem Tidy.byteAt?_of_not_located (tidy : img.Tidy) (unlocated : img.locate? addr = none) :
    img.byteAt? addr = none := by
  refine Option.eq_none_iff_forall_ne_some.2 fun b found => ?_
  obtain ⟨s, hs, lower, at_s⟩ := tidy.byteAt?_eq_some_iff.1 found
  have upper := (Array.getElem?_eq_some_iff.1 at_s).1
  rw [tidy.locate?_eq hs lower (by omega)] at unlocated
  cases unlocated

theorem locate?_eq_some {offset : Nat} (located : img.locate? addr = some (s, offset)) :
    s ∈ img ∧ s.start ≤ addr ∧ offset = addr - s.start := by
  unfold locate? at located
  split at located
  · next found =>
    split at located
    · cases located
      obtain ⟨hs, lower⟩ := List.mem_filter.1 (List.mem_of_getLast? found)
      exact ⟨hs, by simpa using lower, rfl⟩
    · cases located
  · cases located

/-- A segment's own bytes are in the map. -/
theorem maps_slice (hs : s ∈ img) (lower : s.start ≤ addr) (n : Nat) :
    img.Maps addr (Bytes.slice s.bytes (addr - s.start) n) := by
  intro i b hb
  refine ⟨s, hs, by omega, ?_⟩
  rw [Bytes.slice_eq, List.getElem?_take, List.getElem?_drop] at hb
  split at hb
  · rw [show addr + i - s.start = addr - s.start + i by omega]
    simpa using hb
  · cases hb

/-- **The segment that is found** has the address, and none that starts there or below starts later. -/
theorem Built.locate?_eq_some_iff (built : img.Built) {offset : Nat} :
    img.locate? addr = some (s, offset) ↔
      s ∈ img ∧ s.Covers addr ∧ offset = addr - s.start ∧ ∀ t ∈ img, t.start ≤ addr → t.start ≤ s.start := by
  have within : ∀ t : Segment, t.start ≤ addr → (addr - t.start < t.bytes.size ↔ t.Covers addr) := by
    intro t lower
    unfold Segment.Covers
    omega
  constructor
  · intro located
    obtain ⟨hs, lower, rfl⟩ := locate?_eq_some located
    refine ⟨hs, (within s lower).1 (locate?_lt located), rfl, ?_⟩
    have found : img.below? addr = some s := by
      unfold locate? at located
      split at located
      · split at located <;> cases located
        assumption
      · cases located
    exact (built.below?_eq_some_iff.1 found).2.2
  · rintro ⟨hs, covers, rfl, latest⟩
    have found : img.below? addr = some s := built.below?_eq_some_iff.2 ⟨hs, covers.1, latest⟩
    unfold locate?
    rw [found]
    exact if_pos ((within s covers.1).2 covers)

/-! ## Runs of bytes -/

theorem run_of_some (found : img.byteAt? addr = some b) (n : Nat) : img.run addr (n + 1) = b :: img.run (addr + 1) n := by
  simp only [run, found]

theorem run_of_none (unmapped : img.byteAt? addr = none) (n : Nat) : img.run addr n = [] := by
  cases n with
  | zero => rfl
  | succ n => simp only [run, unmapped]

/-- A run goes on behind bytes that are all there. -/
theorem run_append (mapped : ∀ i b, bs[i]? = some b → img.byteAt? (addr + i) = some b) (n : Nat) :
    img.run addr (bs.length + n) = bs ++ img.run (addr + bs.length) n := by
  induction bs generalizing addr with
  | nil => simp
  | cons b bs ih =>
    have first : img.byteAt? addr = some b := mapped 0 b rfl
    have later : img.run (addr + 1) (bs.length + n) = bs ++ img.run (addr + 1 + bs.length) n := by
      refine ih fun i b' hb => ?_
      rw [Nat.add_assoc, Nat.add_comm 1 i]
      exact mapped (i + 1) b' hb
    rw [List.length_cons, Nat.add_right_comm, run_of_some first, later, List.cons_append]
    rw [Nat.add_assoc, Nat.add_comm 1]

theorem length_run_eq_iff : (img.run addr n).length = n ↔ ∀ i < n, (img.byteAt? (addr + i)).isSome := by
  induction n generalizing addr with
  | zero => simp [run]
  | succ n ih =>
    have split_first : (∀ i < n + 1, (img.byteAt? (addr + i)).isSome) ↔
        (img.byteAt? addr).isSome ∧ ∀ i < n, (img.byteAt? (addr + 1 + i)).isSome := by
      rw [Nat.forall_lt_succ_left]
      simp only [Nat.add_zero, Nat.add_assoc, Nat.add_comm 1]
    rw [split_first]
    cases found : img.byteAt? addr with
    | none => simp [run_of_none found]
    | some b => simp [run_of_some found, ih]

theorem maps_run (img : Image) (addr n : Nat) :
    ∀ i b, (img.run addr n)[i]? = some b → img.byteAt? (addr + i) = some b := by
  induction n generalizing addr with
  | zero => simp [run]
  | succ n ih =>
    intro i b hb
    cases found : img.byteAt? addr with
    | none => simp [run_of_none found] at hb
    | some first =>
      rw [run_of_some found] at hb
      cases i with
      | zero => simpa [found] using hb
      | succ i =>
        have later := ih (addr + 1) i b (by simpa using hb)
        rwa [Nat.add_assoc, Nat.add_comm 1] at later

/-! ## Reading and measuring -/

/-- Copying goes on from segment to segment as the map does from address to address. -/
theorem Plain.copy_eq_run (plain : img.Plain) (tidy : img.Tidy) {fuel : Nat} (enough : n ≤ fuel) :
    img.copy fuel addr n = img.run addr n := by
  induction fuel generalizing addr n with
  | zero =>
    obtain rfl : n = 0 := by omega
    rfl
  | succ fuel ih =>
    unfold copy
    split
    · next stop =>
      rcases stop with rfl | outside
      · rfl
      · have unmapped : img.byteAt? addr = none := by
          refine Option.eq_none_iff_forall_ne_some.2 fun b found => ?_
          have := plain.inside (tidy.byteAt?_eq_some_iff.1 found)
          omega
        rw [run_of_none unmapped]
    · next go =>
      cases located : img.locate? addr with
      | none => rw [run_of_none (tidy.byteAt?_of_not_located located)]
      | some found =>
        obtain ⟨s, offset⟩ := found
        obtain ⟨hs, lower, rfl⟩ := locate?_eq_some located
        have nonempty := locate?_lt located
        have mapped := tidy.maps_iff.1 (maps_slice hs lower n)
        have length := Bytes.length_slice s.bytes (addr - s.start) n
        -- the slice of this segment is a run, and the copy goes on behind it
        dsimp only
        generalize Bytes.slice s.bytes (addr - s.start) n = bytes at mapped length
        have whole : bytes.length + (n - bytes.length) = n := by omega
        rw [ih (by omega), ← run_append mapped, whole]

theorem Plain.read_eq_run (plain : img.Plain) (tidy : img.Tidy) (addr n : Nat) : img.read addr n = img.run addr n :=
  plain.copy_eq_run tidy (Nat.le_refl n)

/-- **The extent** counts the addresses with a byte up to the first without one. -/
theorem Plain.le_extent_iff (plain : img.Plain) (tidy : img.Tidy) : k ≤ img.extent addr ↔ img.Mapped addr k := by
  have some_bytes : k ≤ img.extent addr ↔ ∀ i < k, (img.byteAt? (addr + i)).isSome := by
    rw [← length_run_eq_iff, ← plain.read_eq_run tidy, length_read]
    omega
  rw [some_bytes]
  refine forall₂_congr fun i _ => (and_iff_right_of_imp fun some_byte => ?_).symm
  obtain ⟨b, found⟩ := Option.isSome_iff_exists.1 some_byte
  exact plain.inside (tidy.byteAt?_eq_some_iff.1 found)

/-! ## No segment twice -/

variable {offset : Nat}

theorem mappedBytes_append (front back : Image) :
    (front ++ back).mappedBytes = front.mappedBytes + back.mappedBytes := by
  induction front with
  | nil => exact (Nat.zero_add _).symm
  | cons s front ih =>
    unfold mappedBytes at ih ⊢
    rw [List.cons_append, List.foldr_cons, List.foldr_cons, ih, Nat.add_assoc]

theorem mappedBytes_cons (s : Segment) (rest : Image) : mappedBytes (s :: rest) = s.bytes.size + rest.mappedBytes := rfl

/-- Where a segment ends, another one is found only if it starts later. -/
theorem Built.later (built : img.Built) {front back : Image} (split : img = front ++ s :: back)
    (located : img.locate? (s.start + s.bytes.size) = some (t, offset)) : t ∈ back := by
  obtain ⟨ht, covers, -, latest⟩ := built.locate?_eq_some_iff.1 located
  have after := latest s (by simp [split]) (Nat.le_add_right _ _)
  have ordered := built.ordered
  rw [split] at ht ordered
  rcases List.mem_append.1 ht with before | same_or_later
  · have := (List.pairwise_append.1 ordered).2.2 t before s List.mem_cons_self
    omega
  · rcases List.mem_cons.1 same_or_later with rfl | later
    · exact absurd covers.2 (Nat.lt_irrefl _)
    · exact later

/-- What is measured from a segment on is in it and in segments behind it. -/
theorem Built.extent_le_of_located (built : img.Built) (front back : Image) (split : img = front ++ s :: back)
    (located : img.locate? addr = some (s, offset)) : img.extent addr ≤ mappedBytes (s :: back) := by
  induction addr using extent.induct img generalizing s offset front back with
  | case1 addr outside =>
    rw [extent_of_limit outside]
    exact Nat.zero_le _
  | case2 addr inside unmapped =>
    rw [unmapped] at located
    cases located
  | case3 addr inside s offset found ih =>
    cases found.symm.trans located
    obtain ⟨-, covers, rfl, -⟩ := built.locate?_eq_some_iff.1 located
    have behind : addr + (s.bytes.size - (addr - s.start)) = s.start + s.bytes.size := by
      have := covers.1
      have := covers.2
      omega
    rw [extent_of_some (Nat.not_le.1 inside) located, mappedBytes_cons]
    rw [behind] at ih ⊢
    have rest : img.extent (s.start + s.bytes.size) ≤ mappedBytes back := by
      cases next : img.locate? (s.start + s.bytes.size) with
      | none =>
        rw [extent_of_none next]
        exact Nat.zero_le _
      | some found =>
        obtain ⟨t, offset⟩ := found
        obtain ⟨mid, back', rfl⟩ := List.append_of_mem (built.later split next)
        refine (ih (front ++ s :: mid) back' (by simp [split]) next).trans ?_
        rw [mappedBytes_append]
        exact Nat.le_add_left _ _
    omega

/-- **No extent is longer than all segments together**, however they overlap. -/
theorem Built.extent_le (built : img.Built) (addr : Nat) : img.extent addr ≤ img.mappedBytes := by
  cases located : img.locate? addr with
  | none =>
    rw [extent_of_none located]
    exact Nat.zero_le _
  | some found =>
    obtain ⟨s, offset⟩ := found
    obtain ⟨front, back, split⟩ := List.append_of_mem (locate?_eq_some located).1
    refine (built.extent_le_of_located front back split located).trans ?_
    rw [split, mappedBytes_append]
    exact Nat.le_add_left _ _

/-! ## What an image is to its readers -/

/-- **Reading and measuring follow the byte map.** Of an image whose segments are not empty, share no address, end within
the address space and have fewer than 2^63 bytes together, the map has the bytes of the segments and no others. A read
into a buffer takes the largest number of bytes that fit and that the map has one behind the other, puts them to the
front and leaves what is behind them alone. The extent is the largest such number for any buffer, and counting it does
not leave the signed 64-bit range. -/
theorem read_and_extent_isGreatest (built : img.Built) (plain : img.Plain) (few : img.mappedBytes < 2 ^ 63) (addr : Nat)
    (buffer : Bytes) :
    let got := img.read addr buffer.length
    let after := Bytes.overlay buffer got
    (∀ a b, img.byteAt? a = some b ↔ ∃ s ∈ img, s.start ≤ a ∧ s.bytes[a - s.start]? = some b) ∧
      IsGreatest {k | k ≤ buffer.length ∧ img.Mapped addr k} got.length ∧
      (∀ i < got.length, after[i]? = img.byteAt? (addr + i)) ∧
      (∀ i, got.length ≤ i → after[i]? = buffer[i]?) ∧
      IsGreatest {k | img.Mapped addr k} (img.extent addr) ∧ img.extent addr < 2 ^ 63 := by
  intro got after
  have tidy := plain.tidy built
  have length : got.length = min buffer.length (img.extent addr) := img.length_read addr buffer.length
  have mapped : ∀ k, k ≤ img.extent addr ↔ img.Mapped addr k := fun _ => plain.le_extent_iff tidy
  refine ⟨fun a b => tidy.byteAt?_eq_some_iff, ⟨⟨?_, ?_⟩, ?_⟩, ?_, ?_, ⟨(mapped _).1 (Nat.le_refl _), ?_⟩, ?_⟩
  · omega
  · exact (mapped _).1 (by omega)
  · rintro k ⟨fits, all⟩
    have := (mapped k).2 all
    omega
  · intro i hi
    have stored : (img.run addr buffer.length)[i]? = some got[i] := by
      rw [← plain.read_eq_run tidy]
      exact List.getElem?_eq_getElem hi
    rw [Bytes.getElem?_overlay, if_pos hi, List.getElem?_eq_getElem hi, img.maps_run addr _ i _ stored]
  · intro i hi
    rw [Bytes.getElem?_overlay, if_neg (Nat.not_lt.2 hi)]
  · intro k all
    exact (mapped k).2 all
  · exact Nat.lt_of_le_of_lt (built.extent_le addr) few

/-- Two segments side by side, another behind a hole, and one at the top of the address space. -/
def holed : Image := (((Image.map 16 #[1, 2] []).map 20 #[9]).map 18 #[3]).map (addressLimit - 1) #[7]

theorem read_and_extent_isGreatest_holed :
    holed.Built ∧ holed.Plain ∧ holed.mappedBytes < 2 ^ 63 ∧
      IsGreatest {k | k ≤ 4 ∧ holed.Mapped 17 k} 2 ∧
      Bytes.overlay [0, 0, 0, 0] (holed.read 17 4) = [2, 3, 0, 0] ∧ IsGreatest {k | holed.Mapped 17 k} 2 := by
  have built : holed.Built := (((Built.empty.map _ _).map _ _).map _ _).map _ _
  have plain : holed.Plain := ⟨by decide, disjoint_of_apart (by decide), by decide⟩
  have few : holed.mappedBytes < 2 ^ 63 := by decide
  obtain ⟨-, greatest, -, -, extent, -⟩ := read_and_extent_isGreatest built plain few 17 [0, 0, 0, 0]
  have taken : (holed.read 17 4).length = 2 := by decide
  have measured : holed.extent 17 = 2 := by cbv
  exact ⟨built, plain, few, taken ▸ greatest, by decide, measured ▸ extent⟩

end Image
end ScriptStreams
