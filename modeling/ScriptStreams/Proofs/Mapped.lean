import ScriptStreams.Memory
/-!
# What an image holds

The segments of an image give each address a byte or none (`Image.Denotes`). Where they are not empty and do
not share addresses (`Image.Tidy`), the last segment that starts at or below an address is the one that has
it, and copying goes from segment to segment without a gap: memory that is mapped throughout is
read as it is (`Tidy.read_eq`).
-/
namespace ScriptStreams

namespace Image

/-- A segment has the byte `b` at `addr`. -/
def Denotes (img : Image) (addr : Nat) (b : UInt8) : Prop :=
  ∃ s ∈ img, s.start ≤ addr ∧ s.bytes[addr - s.start]? = some b

/-- The bytes from `addr` on are `bs`. -/
def Maps (img : Image) (addr : Nat) (bs : Bytes) : Prop := ∀ i b, bs[i]? = some b → img.Denotes (addr + i) b

/-- Segments that are not empty and lie one behind the other. -/
structure Tidy (img : Image) : Prop where
  nonempty : ∀ s ∈ img, 0 < s.bytes.size
  apart : img.Pairwise fun a b => a.start + a.bytes.size ≤ b.start

variable {img : Image} {addr n : Nat} {b b' : UInt8} {bs : Bytes}

theorem Maps.drop (h : img.Maps addr bs) (k : Nat) : img.Maps (addr + k) (bs.drop k) := by
  intro i b hb
  rw [List.getElem?_drop] at hb
  have := h (k + i) b hb
  rwa [← Nat.add_assoc] at this

/-- **The segment that has an address is the one that is found.** -/
theorem Tidy.locate?_eq (tidy : img.Tidy) {s : Segment} (hs : s ∈ img) (lower : s.start ≤ addr)
    (upper : addr < s.start + s.bytes.size) : img.locate? addr = some (s, addr - s.start) := by
  obtain ⟨front, back, rfl⟩ := List.append_of_mem hs
  -- everything behind the segment starts behind the address
  have behind : back.filter (·.start ≤ addr) = [] := by
    refine List.filter_eq_nil_iff.2 fun t ht => ?_
    have := (List.pairwise_cons.1 (List.pairwise_append.1 tidy.apart).2.1).1 t ht
    simp only [decide_eq_true_eq]
    omega
  have found : below? (front ++ s :: back) addr = some s := by
    simp [below?, List.filter_append, lower, behind]
  have inside : addr - s.start < s.bytes.size := by omega
  simp [locate?, found, inside]

theorem Tidy.denotes_unique (tidy : img.Tidy) (h : img.Denotes addr b) (h' : img.Denotes addr b') : b = b' := by
  obtain ⟨s, hs, lower, hb⟩ := h
  obtain ⟨s', hs', lower', hb'⟩ := h'
  have upper := (Array.getElem?_eq_some_iff.1 hb).1
  have upper' := (Array.getElem?_eq_some_iff.1 hb').1
  have found := tidy.locate?_eq hs lower (by omega)
  rw [tidy.locate?_eq hs' lower' (by omega)] at found
  cases found
  exact Option.some.inj (hb.symm.trans hb')

theorem Tidy.slice_eq (tidy : img.Tidy) (mapped : img.Maps addr bs) {s : Segment} (hs : s ∈ img)
    (lower : s.start ≤ addr) (hn : n ≤ bs.length) :
    Bytes.slice s.bytes (addr - s.start) n = bs.take (Bytes.slice s.bytes (addr - s.start) n).length := by
  refine List.ext_getElem? fun i => ?_
  rw [List.getElem?_take]
  split
  · next hi =>
    have short : (Bytes.slice s.bytes (addr - s.start) n).length ≤ bs.length := by
      rw [Bytes.length_slice]
      omega
    obtain ⟨b, hb⟩ : ∃ b, bs[i]? = some b := ⟨bs[i], List.getElem?_eq_getElem (by omega)⟩
    obtain ⟨b', hb'⟩ : ∃ b', (Bytes.slice s.bytes (addr - s.start) n)[i]? = some b' :=
      ⟨_, List.getElem?_eq_getElem hi⟩
    have stored : s.bytes[addr + i - s.start]? = some b' := by
      rw [Bytes.slice_eq, List.getElem?_take, List.getElem?_drop] at hb'
      split at hb'
      · rw [show addr + i - s.start = addr - s.start + i by omega]
        simpa using hb'
      · cases hb'
    rw [hb, hb', tidy.denotes_unique (mapped i b hb) ⟨s, hs, by omega, stored⟩]
  · next hi => exact List.getElem?_eq_none (by omega)

/-- Copying goes on from segment to segment. -/
theorem Tidy.copy_eq (tidy : img.Tidy) {fuel : Nat} (mapped : img.Maps addr bs) (enough : n ≤ fuel)
    (hn : n ≤ bs.length) (inside : addr + n ≤ addressLimit) : img.copy fuel addr n = bs.take n := by
  induction fuel generalizing addr n bs with
  | zero =>
    obtain rfl : n = 0 := by omega
    rfl
  | succ fuel ih =>
    unfold copy
    split
    · next stop =>
      obtain rfl : n = 0 := by omega
      simp
    · next go =>
      obtain ⟨b, hb⟩ : ∃ b, bs[0]? = some b := ⟨bs[0], List.getElem?_eq_getElem (by omega)⟩
      obtain ⟨s, hs, lower, hstored⟩ := mapped 0 b hb
      rw [Nat.add_zero] at lower hstored
      have upper := (Array.getElem?_eq_some_iff.1 hstored).1
      have chunk := tidy.slice_eq mapped hs lower hn
      have length := Bytes.length_slice s.bytes (addr - s.start) n
      rw [tidy.locate?_eq hs lower (by omega)]
      dsimp only
      generalize Bytes.slice s.bytes (addr - s.start) n = bytes at chunk length
      have rest := ih (mapped.drop bytes.length) (n := n - bytes.length) (by omega) (by simp; omega) (by omega)
      have whole : bytes.length + (n - bytes.length) = n := by omega
      calc bytes ++ copy img fuel (addr + bytes.length) (n - bytes.length)
          = bs.take bytes.length ++ (bs.drop bytes.length).take (n - bytes.length) := by rw [rest, ← chunk]
        _ = bs.take n := by rw [← List.take_add, whole]

/-- **Memory that is mapped throughout** is read as it is. -/
theorem Tidy.read_eq (tidy : img.Tidy) (mapped : img.Maps addr bs) (hn : n ≤ bs.length)
    (inside : addr + n ≤ addressLimit) : img.read addr n = bs.take n :=
  tidy.copy_eq mapped (Nat.le_refl n) hn inside

end Image
end ScriptStreams
