import ScriptStreams.Proofs.Backing
import ScriptStreams.Proofs.Lookups
import ScriptStreams.Proofs.Streams
/-!
# Loads from streams over fixed bytes

A stream that amounts to bytes and a position (`World.Amounts`) is loaded from exactly: the load goes through if
and only if the range is not inverted and the bytes are there, wherever the stream stood before, and then the
look-ups give back these bytes and their offsets (`World.loadSpace_exact`).
-/
namespace ScriptStreams

/-! ## Loads from a cursor -/

namespace Cursor

/-- Reading in full takes what there is at once. -/
theorem readFull_eq {fuel want : Nat} (enough : want ≤ fuel) (c : Cursor) :
    device.readFull fuel want c = (c.rest.take want, c.advance (c.rest.take want).length) := by
  induction fuel generalizing want c with
  | zero =>
    obtain rfl : want = 0 := by omega
    rfl
  | succ fuel ih =>
    have read : device.read want c = (⟨(c.rest.take want).length, c.rest.take want⟩, c.advance (c.rest.take want).length) :=
      rfl
    have credited : Transfer.credited ⟨((c.rest.take want).length : Nat), c.rest.take want⟩ want = c.rest.take want :=
      Transfer.credited_of_counted rfl (List.length_take_le _ _)
    rw [Device.readFull_succ]
    split
    · next none_wanted => simp [none_wanted, advance_zero]
    · next wanted =>
      rw [read]
      dsimp only
      split
      · next nothing =>
        have empty : c.rest.take want = [] := List.length_eq_zero_iff.1 (by omega)
        simp [empty]
      · next something =>
        -- after the first answer all is there, or the bytes are at their end
        have later : ((c.advance (c.rest.take want).length).rest.take (want - (c.rest.take want).length)) = [] := by
          rw [rest_advance, List.take_eq_nil_iff, List.drop_eq_nil_iff, List.length_take]
          omega
        have fuelled : want - (c.rest.take want).length ≤ fuel := by omega
        rw [credited, ih fuelled, later, List.append_nil]
        rfl

theorem seek_start {filePos : Int} (lower : 0 ≤ filePos) (upper : filePos ≤ maxPosition) (c : Cursor) :
    c.seek filePos .start = (filePos, { c with pos := filePos.toNat }) := by
  have top : (maxPosition : Int) = 0x7fffffffffffffff := rfl
  have target : ((c.base .start : Nat) : Int) + filePos = filePos := by simp [base]
  simp only [seek, target]
  exact if_pos ⟨lower, by omega⟩

variable {a : Allocator} {c : Cursor} {filePos : Int} {start stop : Nat} {patchable : Bool} {space : AddressSpace}

/-- What a load reads from the cursor, and where it leaves it. -/
theorem readFull_seek (lower : 0 ≤ filePos) (upper : filePos ≤ maxPosition) (n : Nat) :
    device.readFull n n (device.seek filePos .start c).2 =
      ((c.content.drop filePos.toNat).take n,
        { c with pos := filePos.toNat + ((c.content.drop filePos.toNat).take n).length }) := by
  have moved : device.seek filePos .start c = (filePos, { c with pos := filePos.toNat }) := seek_start lower upper c
  rw [moved, readFull_eq (Nat.le_refl n)]
  rfl

/-- **A load goes through** if and only if the range is not inverted and the bytes are there. -/
theorem loads_iff (lower : 0 ≤ filePos) (upper : filePos ≤ maxPosition)
    (reservable : a.reserves (stop - start) = true) :
    AddressSpace.Loads a device filePos start stop c ↔
      start ≤ stop ∧ (start = stop ∨ filePos + (stop - start : Nat) ≤ c.content.length) := by
  have moved : device.seek filePos .start c = (filePos, { c with pos := filePos.toNat }) := seek_start lower upper c
  have full := readFull_seek (c := c) lower upper (stop - start)
  have length : ((c.content.drop filePos.toNat).take (stop - start)).length =
      min (stop - start) (c.content.length - filePos.toNat) := by simp
  have below : stop - start ≤ Allocator.maxBlock := a.addressable reservable
  constructor
  · rintro ⟨ordered, -, -, -, delivered⟩
    rw [full, length] at delivered
    exact ⟨ordered, by omega⟩
  · rintro ⟨ordered, there⟩
    refine ⟨ordered, congrArg Prod.fst moved, fun left => ?_, reservable, ?_⟩
    · have size : device.size (device.seek filePos .start c).2 = c.content.length := by rw [moved]; rfl
      rw [size] at left ⊢
      simp only [saturatingSub, Allocator.maxBlock] at left below ⊢
      omega
    · rw [full, length]
      omega

end Cursor

namespace World

/-! ## Loads from the stream behind a reference -/

/-- The stream of `r` is live and amounts to the cursor. -/
def Amounts (r : StreamRef) (w : World) (c : Cursor) : Prop := ∃ x, Stands r w x ∧ Source.Shows x c

variable {r : StreamRef} {w : World} {c : Cursor} {content : Bytes} {pos start stop : Nat} {filePos : Int}
  {patchable : Bool}

theorem Amounts.position (h : Amounts r w c) (inside : c.pos ≤ maxPosition) : w.position r = c.pos := by
  have told : (w.tell r).1 = (c.seek 0 .current).1 := by
    obtain ⟨x, stands, shows⟩ := h
    have same := (stands.withStream Source.device.tell).1
    simp only [World.tell, same, Option.getD_some]
    exact (Source.simulates_cursor.tell shows).1
  have top : (maxPosition : Int) = 0x7fffffffffffffff := rfl
  rw [World.position, told]
  simp only [Cursor.seek, Cursor.base, Int.add_zero]
  rw [if_pos ⟨Int.natCast_nonneg _, by omega⟩]

theorem space_loadSpace (w : World) (r : StreamRef) (filePos : Int) (start stop : Nat) (patchable : Bool) :
    (w.loadSpace r filePos start stop patchable).2.space =
      (w.space.load w.allocator (device r) filePos start stop patchable w).2.1 := (noteAll_keeps _ _).2.2

/-- Loads from the streams of a world are loads like any other. -/
theorem reachable_loadSpace (reachable : w.space.Reachable) (r : StreamRef) (filePos : Int) (start stop : Nat)
    (patchable : Bool) : (w.loadSpace r filePos start stop patchable).2.space.Reachable := by
  rw [space_loadSpace]
  exact reachable.load w.allocator (device r) filePos start stop patchable w

/-- The stream loads as its source does. -/
theorem Stands.loadSpace {x : Source × Environment} (h : Stands r w x) (filePos : Int) (start stop : Nat)
    (patchable : Bool) :
    (w.loadSpace r filePos start stop patchable).1 =
        (w.space.load w.allocator Source.device filePos start stop patchable x).1.status ∧
      (w.loadSpace r filePos start stop patchable).2.space =
        (w.space.load w.allocator Source.device filePos start stop patchable x).2.1 ∧
      Stands r (w.loadSpace r filePos start stop patchable).2
        (w.space.load w.allocator Source.device filePos start stop patchable x).2.2 := by
  obtain ⟨outcome, ranges, ⟨live, surroundings⟩⟩ := (simulates_source r).load w.allocator w.space filePos start stop patchable h
  obtain ⟨table, env, -⟩ := noteAll_keeps
    { (w.space.load w.allocator (device r) filePos start stop patchable w).2.2 with
      space := (w.space.load w.allocator (device r) filePos start stop patchable w).2.1 }
    (w.space.load w.allocator (device r) filePos start stop patchable w).1.event?
  refine ⟨congrArg LoadOutcome.status outcome, ?_, table ▸ live, env.trans surroundings⟩
  rw [space_loadSpace, ranges]

/-- The stream loads as its cursor does. -/
theorem Amounts.loadSpace (h : Amounts r w c) (filePos : Int) (start stop : Nat) (patchable : Bool) :
    (w.loadSpace r filePos start stop patchable).1 =
        (w.space.load w.allocator Cursor.device filePos start stop patchable c).1.status ∧
      (w.loadSpace r filePos start stop patchable).2.space =
        (w.space.load w.allocator Cursor.device filePos start stop patchable c).2.1 ∧
      Amounts r (w.loadSpace r filePos start stop patchable).2
        (w.space.load w.allocator Cursor.device filePos start stop patchable c).2.2 := by
  obtain ⟨x, stands, shows⟩ := h
  obtain ⟨status, ranges, after⟩ := stands.loadSpace filePos start stop patchable
  obtain ⟨outcome, ranges', shows'⟩ := Source.simulates_cursor.load w.allocator w.space filePos start stop patchable shows
  exact ⟨status.trans (congrArg LoadOutcome.status outcome), ranges.trans ranges', _, after, shows'⟩

/-- What a load of some addresses leaves, if it goes through: the new range is in place, and the stream stands behind
the bytes. -/
theorem Amounts.loaded (h : Amounts r w ⟨content, pos⟩) (reachable : w.space.Reachable) (lower : 0 ≤ filePos)
    (upper : filePos ≤ maxPosition) (loads : AddressSpace.Loads w.allocator Cursor.device filePos start stop ⟨content, pos⟩)
    (nonempty : start < stop) (patchable : Bool) :
    let after := (w.loadSpace r filePos start stop patchable).2
    let new : LoadedRange := ⟨start, stop, (content.drop filePos.toNat).take (stop - start),
      if patchable then some filePos else none⟩
    after.space.WellFormed ∧ new ∈ after.space ∧ after.Amounts r ⟨content, filePos.toNat + (stop - start)⟩ := by
  intro after new
  obtain ⟨-, ranges, amounts⟩ := h.loadSpace filePos start stop patchable
  have full := Cursor.readFull_seek (c := ⟨content, pos⟩) lower upper (stop - start)
  have own : AddressSpace.rangeFrom Cursor.device filePos start stop patchable ⟨content, pos⟩ = new := by
    simp only [AddressSpace.rangeFrom, full, new]
  have length : ((content.drop filePos.toNat).take (stop - start)).length = stop - start := by
    have delivered := loads.delivered
    rwa [full] at delivered
  have wellFormed := reachable.wellFormed.load w.allocator Cursor.device filePos start stop patchable ⟨content, pos⟩
  rw [← ranges] at wellFormed
  rw [AddressSpace.load_eq_of_loads loads] at ranges amounts
  refine ⟨wellFormed, ?_, ?_⟩
  · rw [ranges, own]
    exact AddressSpace.mem_replace.2 (.inr ⟨nonempty, rfl⟩)
  · rwa [full, length] at amounts

/-- **Loading is exact.** Let a live stream amount to some bytes: a file, a window of memory that is mapped throughout, a
shared open file that can be read. Wherever it stands, a load from a position on, for which a buffer can be reserved,
answers 1 if and only if the range is not inverted and either empty or covered by the bytes from there. Then the
bytes can be read back at their addresses, all of these are enabled and, if so asked, remember their offsets, and the
stream stands behind the last byte. A load that does not answer 1 answers 0 and changes no range. -/
theorem loadSpace_exact (amounts : w.Amounts r ⟨content, pos⟩) (short : content.length ≤ maxPosition)
    (reachable : w.space.Reachable) (lower : 0 ≤ filePos) (upper : filePos ≤ maxPosition)
    (reservable : w.allocator.reserves (stop - start) = true) (patchable : Bool) :
    let status := (w.loadSpace r filePos start stop patchable).1
    let after := (w.loadSpace r filePos start stop patchable).2
    (status = 1 ↔ start ≤ stop ∧ (start = stop ∨ filePos + (stop - start : Nat) ≤ content.length)) ∧
      (status = 1 → start < stop →
        after.space.read? start (stop - start) = some ((content.drop filePos.toNat).take (stop - start)) ∧
        (∀ addr, start ≤ addr → addr < stop → after.space.isEnabled addr = true) ∧
        (∀ i < stop - start, after.space.fileOffset? (start + i) = if patchable then some (filePos + i) else none) ∧
        after.position r = filePos + (stop - start : Nat)) ∧
      (status ≠ 1 → status = 0 ∧ after.space = w.space) := by
  intro status after
  obtain ⟨answer, ranges, -⟩ := amounts.loadSpace filePos start stop patchable
  have granted : status = 1 ↔ AddressSpace.Loads w.allocator Cursor.device filePos start stop ⟨content, pos⟩ :=
    (Eq.congr_left answer).trans AddressSpace.status_load_eq_one
  have condition := Cursor.loads_iff (c := ⟨content, pos⟩) lower upper reservable
  refine ⟨granted.trans condition, fun loaded nonempty => ?_, fun failed => ?_⟩
  · have loads := granted.1 loaded
    obtain ⟨wellFormed, stored, amounts'⟩ := amounts.loaded reachable lower upper loads nonempty patchable
    refine ⟨wellFormed.read?_whole stored, fun addr h1 h2 => ?_, fun i hi => ?_, ?_⟩
    · exact wellFormed.isEnabled_of_mem stored (LoadedRange.contains_iff.2 ⟨h1, h2⟩)
    · rw [wellFormed.fileOffset?_of_mem stored (LoadedRange.contains_iff.2 ⟨by simp, by dsimp only; omega⟩)]
      cases patchable <;> simp
    · have there : start = stop ∨ filePos + (stop - start : Nat) ≤ content.length := (condition.1 loads).2
      rw [amounts'.position (by dsimp only; omega)]
      dsimp only
      omega
  · have refused : ¬ AddressSpace.Loads w.allocator Cursor.device filePos start stop ⟨content, pos⟩ := mt granted.2 failed
    obtain ⟨zero, unchanged⟩ := AddressSpace.load_of_not_loads refused
    exact ⟨answer.trans zero, ranges.trans unchanged⟩

/-- A shared open file of six bytes, adapted. -/
def sharedLetters : World :=
  (register
    { env := { files := { contents := [(0, (Bytes.counting 97 6).toArray)] }, openFiles := [(0, .file 0 .read 0)] } }
    .adapted (.shared 0)).2

/-- The file read to its end by a load of all of it at address 12. -/
def loadedThrough : World := (sharedLetters.loadSpace .first 0 12 18 false).2

theorem amounts_loadedThrough : loadedThrough.Amounts .first ⟨Bytes.counting 97 6, 6⟩ :=
  ⟨(.shared 0, loadedThrough.env), ⟨⟨.adapted, rfl⟩, rfl⟩, 0, .read, rfl, rfl, rfl⟩

/-- The last four bytes loaded over the first range. -/
theorem loadSpace_exact_loadedThrough :
    loadedThrough.space.Reachable ∧
      (loadedThrough.loadSpace .first 2 16 20 true).1 = 1 ∧
      (loadedThrough.loadSpace .first 2 16 20 true).2.space.read? 16 4 = some (Bytes.counting 99 4) ∧
      (loadedThrough.loadSpace .first 2 16 20 true).2.space.fileOffset? 19 = some 5 ∧
      (loadedThrough.loadSpace .first 2 16 20 true).2.position .first = 6 := by
  have reachable : loadedThrough.space.Reachable := reachable_loadSpace .empty .first 0 12 18 false
  have lower : (0 : Int) ≤ 2 := by decide
  have upper : (2 : Int) ≤ maxPosition := by decide
  have reservable : loadedThrough.allocator.reserves (20 - 16) = true := by decide
  obtain ⟨condition, exact, -⟩ :=
    loadSpace_exact amounts_loadedThrough (by decide) reachable lower upper reservable true
  have loaded := condition.2 (by decide)
  obtain ⟨read, -, offsets, position⟩ := exact loaded (by decide)
  exact ⟨reachable, loaded, read, offsets 3 (by decide), position⟩

end World
end ScriptStreams
