import ScriptStreams.Proofs.Replacement
/-!
# Looking up what was loaded

A look-up consults one range only, the last that starts at or below the address. In a well-formed address space that
is the range with the address, if any has it (`WellFormed.rangeAt?_eq_some_iff`), so look-ups say what the
ranges say together (`WellFormed.answers`). Every run of loads, from whatever streams and with whatever outcomes, leaves
such an address space, and each of its ranges was put there by a load of the run (`lookups_afterAll`).
-/
namespace ScriptStreams

/-- A request to load `start..stop` from `filePos` of a stream on, in the state that the stream is then in and with the
memory that there is then. -/
structure LoadRequest where
  allocator : Allocator
  State : Type
  stream : Device State
  state : State
  filePos : Int
  start : Nat
  stop : Nat
  patchable : Bool

namespace LoadRequest

/-- How the request ends, and the address space after it. -/
def perform (q : LoadRequest) (space : AddressSpace) : LoadOutcome × AddressSpace :=
  let (outcome, space, _) := space.load q.allocator q.stream q.filePos q.start q.stop q.patchable q.state
  (outcome, space)

/-- The request is granted and the stream delivers. -/
def Loads (q : LoadRequest) : Prop := AddressSpace.Loads q.allocator q.stream q.filePos q.start q.stop q.state

/-- What the request puts in place: the bytes of the stream, with their offset if it is patchable. -/
def range (q : LoadRequest) : LoadedRange :=
  AddressSpace.rangeFrom q.stream q.filePos q.start q.stop q.patchable q.state

variable {q : LoadRequest} {space : AddressSpace} {r : LoadedRange}

theorem perform_of_loads (h : q.Loads) : (q.perform space).2 = space.replace q.range :=
  (AddressSpace.load_of_loads h).2

theorem perform_of_not_loads (h : ¬ q.Loads) : (q.perform space).2 = space :=
  (AddressSpace.load_of_not_loads h).2

/-- **A request that answers 0** leaves the ranges as they were. -/
theorem perform_of_status_zero (h : (q.perform space).1.status = 0) : (q.perform space).2 = space := by
  refine perform_of_not_loads fun loads => ?_
  have one : (q.perform space).1.status = 1 := AddressSpace.status_load_eq_one.2 loads
  omega

/-- A range that is there after a request was there before it or is its own. -/
theorem mem_perform (h : r ∈ (q.perform space).2) : r ∈ space ∨ q.Loads ∧ r = q.range := by
  by_cases loads : q.Loads
  · rw [perform_of_loads loads, AddressSpace.mem_replace] at h
    rcases h with ⟨old, -⟩ | ⟨-, new⟩
    · exact .inl old
    · exact .inr ⟨loads, new⟩
  · rw [perform_of_not_loads loads] at h
    exact .inl h

end LoadRequest

namespace AddressSpace

variable {space : AddressSpace} {addr n : Nat} {r : LoadedRange}

/-! ## Look-ups in a well-formed address space -/

/-- **The range that has an address is the one that is found.** -/
theorem WellFormed.rangeAt?_eq_some_iff (h : space.WellFormed) :
    space.rangeAt? addr = some r ↔ r ∈ space ∧ r.contains addr = true := by
  unfold rangeAt?
  constructor
  · intro found
    split at found
    · next r' last =>
      split at found
      · next inside =>
        cases found
        exact ⟨(List.mem_filter.1 (List.mem_of_getLast? last)).1, inside⟩
      · cases found
    · cases found
  · rintro ⟨stored, inside⟩
    obtain ⟨lower, upper⟩ := LoadedRange.contains_iff.1 inside
    obtain ⟨front, back, rfl⟩ := List.append_of_mem stored
    -- everything behind the range starts behind the address
    have behind : back.filter (·.start ≤ addr) = [] := by
      refine List.filter_eq_nil_iff.2 fun r' hr' => ?_
      have := (List.pairwise_cons.1 (List.pairwise_append.1 h.ordered).2.1).1 r' hr'
      simp only [decide_eq_true_eq]
      omega
    have last : ((front ++ r :: back).filter (·.start ≤ addr)).getLast? = some r := by
      simp [List.filter_append, lower, behind]
    simp only [last, inside, if_true]

theorem WellFormed.rangeAt?_start (h : space.WellFormed) (stored : r ∈ space) : space.rangeAt? r.start = some r :=
  h.rangeAt?_eq_some_iff.2 ⟨stored, LoadedRange.contains_iff.2 ⟨Nat.le_refl _, (h.whole r stored).1⟩⟩

theorem WellFormed.read?_of_mem (h : space.WellFormed) (stored : r ∈ space) (inside : r.contains addr = true) :
    space.read? addr n =
      if addr + n ≤ r.stop then some ((r.bytes.drop (addr - r.start)).take n) else none := by
  have found := h.rangeAt?_eq_some_iff.2 ⟨stored, inside⟩
  obtain ⟨lower, upper⟩ := LoadedRange.contains_iff.1 inside
  have length := (h.whole r stored).2
  have fits : addr - r.start + n ≤ r.bytes.length ↔ addr + n ≤ r.stop := by omega
  simp only [read?, found, fits]

theorem WellFormed.read?_whole (h : space.WellFormed) (stored : r ∈ space) :
    space.read? r.start (r.stop - r.start) = some r.bytes := by
  obtain ⟨nonempty, length⟩ := h.whole r stored
  have first : r.contains r.start = true := LoadedRange.contains_iff.2 ⟨Nat.le_refl _, nonempty⟩
  rw [h.read?_of_mem stored first, if_pos (by omega), Nat.sub_self, List.drop_zero, ← length, List.take_length]

theorem WellFormed.isEnabled_of_mem (h : space.WellFormed) (stored : r ∈ space) (inside : r.contains addr = true) :
    space.isEnabled addr = true := by
  rw [isEnabled, h.rangeAt?_eq_some_iff.2 ⟨stored, inside⟩]
  rfl

theorem WellFormed.fileOffset?_of_mem (h : space.WellFormed) (stored : r ∈ space) (inside : r.contains addr = true) :
    space.fileOffset? addr = r.filePos.map fun pos : Int => pos + ((addr - r.start : Nat) : Int) := by
  simp only [fileOffset?, h.rangeAt?_eq_some_iff.2 ⟨stored, inside⟩]

theorem rangeAt?_of_read? {bs : Bytes} (h : space.read? addr n = some bs) : ∃ r, space.rangeAt? addr = some r := by
  unfold read? at h
  split at h
  · exact ⟨_, by assumption⟩
  · cases h

theorem rangeAt?_of_fileOffset? {p : Int} (h : space.fileOffset? addr = some p) :
    ∃ r, space.rangeAt? addr = some r := by
  unfold fileOffset? at h
  split at h
  · exact ⟨_, by assumption⟩
  · cases h

/-- The look-ups say what the stored ranges say together. -/
structure Answers (space : AddressSpace) : Prop where
  enabled : ∀ addr, space.isEnabled addr = true ↔ ∃ r ∈ space, r.contains addr = true
  read : ∀ addr n bs, space.read? addr n = some bs ↔
    ∃ r ∈ space, r.contains addr = true ∧ addr + n ≤ r.stop ∧ bs = (r.bytes.drop (addr - r.start)).take n
  fileOffset : ∀ addr p, space.fileOffset? addr = some p ↔
    ∃ r ∈ space, r.contains addr = true ∧ ∃ pos, r.filePos = some pos ∧ p = pos + (addr - r.start : Nat)
  spans : space.spans.Pairwise fun a b => a.1 < b.1 ∧ a.2 ≤ b.1

theorem WellFormed.answers (h : space.WellFormed) : space.Answers where
  enabled addr := by
    rw [isEnabled, Option.isSome_iff_exists]
    exact exists_congr fun r => h.rangeAt?_eq_some_iff
  read addr n bs := by
    constructor
    · intro read
      obtain ⟨r, found⟩ := rangeAt?_of_read? read
      obtain ⟨stored, inside⟩ := h.rangeAt?_eq_some_iff.1 found
      rw [h.read?_of_mem stored inside] at read
      split at read
      · next fits => exact ⟨r, stored, inside, fits, (Option.some.inj read).symm⟩
      · cases read
    · rintro ⟨r, stored, inside, fits, rfl⟩
      rw [h.read?_of_mem stored inside, if_pos fits]
  fileOffset addr p := by
    constructor
    · intro offset
      obtain ⟨r, found⟩ := rangeAt?_of_fileOffset? offset
      obtain ⟨stored, inside⟩ := h.rangeAt?_eq_some_iff.1 found
      rw [h.fileOffset?_of_mem stored inside] at offset
      obtain ⟨pos, remembered, sum⟩ := Option.map_eq_some_iff.1 offset
      exact ⟨r, stored, inside, pos, remembered, sum.symm⟩
    · rintro ⟨r, stored, inside, pos, remembered, rfl⟩
      rw [h.fileOffset?_of_mem stored inside, remembered, Option.map_some]
  spans := by
    refine List.pairwise_map.2 (h.ordered.imp_of_mem fun {a b} ha _ before => ?_)
    have := (h.whole a ha).1
    exact ⟨by dsimp only; omega, before⟩

theorem WellFormed.apart (h : space.WellFormed) :
    space.Pairwise fun a b => ∀ addr, ¬ (a.contains addr = true ∧ b.contains addr = true) := by
  refine h.ordered.imp fun {a b} before addr both => ?_
  rw [LoadedRange.contains_iff, LoadedRange.contains_iff] at both
  omega

/-! ## Runs of loads -/

/-- The address space after some requests, one after the other, to load into an empty one. -/
def afterAll (requests : List LoadRequest) : AddressSpace :=
  requests.foldl (fun space q => (q.perform space).2) []

theorem Reachable.foldl (h : space.Reachable) (requests : List LoadRequest) :
    Reachable (requests.foldl (fun space q => (q.perform space).2) space) := by
  induction requests generalizing space with
  | nil => exact h
  | cons q rest ih => exact ih (h.load q.allocator q.stream q.filePos q.start q.stop q.patchable q.state)

theorem mem_foldl (requests : List LoadRequest)
    (h : r ∈ requests.foldl (fun space q => (q.perform space).2) space) :
    r ∈ space ∨ ∃ q ∈ requests, q.Loads ∧ r = q.range := by
  induction requests generalizing space with
  | nil => exact .inl h
  | cons q rest ih =>
    rcases ih h with before | ⟨q', listed, loads, own⟩
    · rcases LoadRequest.mem_perform before with old | new
      · exact .inl old
      · exact .inr ⟨q, by simp, new⟩
    · exact .inr ⟨q', by simp [listed], loads, own⟩

/-- The ranges that requests leave behind: apart from each other, a byte for each of their addresses, to be found
under their own start, and each put there by one of the requests. -/
structure RangeMap (requests : List LoadRequest) (space : AddressSpace) : Prop where
  apart : space.Pairwise fun a b => ∀ addr, ¬ (a.contains addr = true ∧ b.contains addr = true)
  nonempty : ∀ r ∈ space, r.start < r.stop
  filled : ∀ r ∈ space, r.bytes.length = r.stop - r.start
  keyed : ∀ r ∈ space, space.rangeAt? r.start = some r
  loaded : ∀ r ∈ space, ∃ q ∈ requests, q.Loads ∧ r = q.range

theorem rangeMap_afterAll (requests : List LoadRequest) : RangeMap requests (afterAll requests) := by
  have wellFormed := (Reachable.empty.foldl requests).wellFormed
  refine ⟨wellFormed.apart, fun r hr => (wellFormed.whole r hr).1, fun r hr => (wellFormed.whole r hr).2,
    fun r hr => wellFormed.rangeAt?_start hr, fun r hr => ?_⟩
  rcases mem_foldl requests hr with none_before | loaded
  · cases none_before
  · exact loaded

/-! ### Offsets within the signed 64-bit range -/

/-- A signed 64-bit number. -/
def IsOffset (n : Int) : Prop := -0x8000000000000000 ≤ n ∧ n ≤ 0x7fffffffffffffff

/-- Neither the distance from the start nor the offset that it is added to leaves the range, if no byte of the
range came from an offset outside of it. -/
theorem RangeMap.isOffset {requests : List LoadRequest} (h : RangeMap requests space) (stored : r ∈ space) {pos : Int}
    (first : IsOffset pos) (last : ∀ i < r.bytes.length, pos + (i : Nat) < 0x8000000000000000)
    (inside : r.contains addr = true) :
    IsOffset (addr - r.start : Nat) ∧ IsOffset (pos + (addr - r.start : Nat)) := by
  obtain ⟨q, -, loads, own⟩ := h.loaded r stored
  have length := h.filled r stored
  have short : r.bytes.length ≤ Allocator.maxBlock := by
    rw [own, LoadRequest.range, rangeFrom, loads.delivered]
    exact q.allocator.addressable loads.reservable
  obtain ⟨lower, upper⟩ := LoadedRange.contains_iff.1 inside
  have offset := last (addr - r.start) (by omega)
  have above := first.1
  simp only [Allocator.maxBlock] at short
  unfold IsOffset
  omega

/-- **What a run of loads leaves behind.** Let ranges be loaded into an empty address space from any streams, gone,
failing or behind holes in memory, with any arguments and any outcomes. Then the stored ranges are as `RangeMap` says, the
look-ups are right about all of them together (`Answers`), adding up a file offset stays within the signed
64-bit range where the bytes came from offsets within it, and a further request that answers 0 changes nothing. -/
theorem lookups_afterAll (requests : List LoadRequest) :
    let space := afterAll requests
    space.RangeMap requests ∧ space.Answers ∧
      (∀ r ∈ space, ∀ pos, r.filePos = some pos → IsOffset pos →
        (∀ i < r.bytes.length, pos + (i : Nat) < 0x8000000000000000) → ∀ addr, r.contains addr = true →
          IsOffset (addr - r.start : Nat) ∧ IsOffset (pos + (addr - r.start : Nat))) ∧
      ∀ q : LoadRequest, (q.perform space).1.status = 0 → (q.perform space).2 = space := by
  intro space
  have ranges : space.RangeMap requests := rangeMap_afterAll requests
  have wellFormed : space.WellFormed := (Reachable.empty.foldl requests).wellFormed
  refine ⟨ranges, wellFormed.answers, ?_, fun q refused => q.perform_of_status_zero refused⟩
  intro r stored pos _ first last addr inside
  exact ranges.isOffset stored first last inside

end AddressSpace
end ScriptStreams
