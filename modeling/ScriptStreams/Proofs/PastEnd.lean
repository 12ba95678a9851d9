import ScriptStreams.Proofs.Streams
/-!
# Loads past the end

A load that asks for more than a stream has left is to be refused before a buffer is reserved for it. To see that, the
load is given an allocator that may answer and do what it likes (`AddressSpace.loadAsking`), and a stream on which reads
may do so too: what does not depend on them was neither reserved nor read (`World.EndsUnasked`). So the load ends, where
it can seek to the position at all, if and only if the position is in the stream or at its end. From a position behind
the end the difference to the size is negative, which passes for a size that is not known, and the load goes on to
reserve whatever it was asked for (`World.endsUnasked_pastEnd_iff`).
-/
namespace ScriptStreams

variable {σ : Type}

namespace AddressSpace

/-- A load that asks for its buffer: `reserve` grants a number of bytes or refuses them. -/
def loadAsking (reserve : Nat → σ → Bool × σ) (d : Device σ) (space : AddressSpace) (filePos : Int)
    (start stop : Nat) (patchable : Bool) (s : σ) : LoadOutcome × AddressSpace × σ :=
  if stop < start then (.invertedRange, space, s)
  else
    let n := stop - start
    let (reached, s) := d.seek filePos .start s
    if reached ≠ filePos then (.seekFailed, space, s)
    else
      let available := saturatingSub (d.size s) filePos
      if 0 ≤ available ∧ available < n then (.pastEnd, space, s)
      else
        let (granted, s) := reserve n s
        if !granted then (.cannotAllocate, space, s)
        else
          let (bytes, s) := d.readFull n n s
          if bytes.length < n then (.readFailed, space, s)
          else (.loaded, space.replace ⟨start, stop, bytes, if patchable then some filePos else none⟩, s)

variable {reserve : Nat → σ → Bool × σ} {d : Device σ} {space : AddressSpace} {filePos size : Int}
  {start stop : Nat} {patchable : Bool} {s : σ}

/-- Where an allocator answers by the length alone, that is the load. -/
theorem load_eq_loadAsking (a : Allocator) (d : Device σ) (space : AddressSpace) (filePos : Int) (start stop : Nat)
    (patchable : Bool) (s : σ) :
    space.load a d filePos start stop patchable s =
      loadAsking (fun n s => (a.reserves n, s)) d space filePos start stop patchable s := rfl

theorem saturatingSub_of_le (inside : filePos ≤ size) (n : Nat) (beyond : size < filePos + n) :
    0 ≤ saturatingSub size filePos ∧ saturatingSub size filePos < n := by
  unfold saturatingSub
  omega

theorem saturatingSub_of_lt (behind : size < filePos) : saturatingSub size filePos < 0 := by
  unfold saturatingSub
  omega

theorem loadAsking_of_not_reached (ordered : start ≤ stop) (elsewhere : (d.seek filePos .start s).1 ≠ filePos) :
    loadAsking reserve d space filePos start stop patchable s = (.seekFailed, space, (d.seek filePos .start s).2) := by
  unfold loadAsking
  rw [if_neg (Nat.not_lt.2 ordered)]
  exact if_pos elsewhere

/-- **From a position in the stream** a load of more than is left ends before anything is asked for. -/
theorem loadAsking_of_le (ordered : start ≤ stop) (reached : (d.seek filePos .start s).1 = filePos)
    (inside : filePos ≤ d.size (d.seek filePos .start s).2)
    (beyond : d.size (d.seek filePos .start s).2 < filePos + (stop - start : Nat)) :
    loadAsking reserve d space filePos start stop patchable s = (.pastEnd, space, (d.seek filePos .start s).2) := by
  unfold loadAsking
  rw [if_neg (Nat.not_lt.2 ordered)]
  dsimp only
  rw [if_neg (not_not_intro reached), if_pos (saturatingSub_of_le inside _ beyond)]

/-- **From a position behind the end** the load asks for its buffer. -/
theorem loadAsking_of_lt (ordered : start ≤ stop) (reached : (d.seek filePos .start s).1 = filePos)
    (behind : d.size (d.seek filePos .start s).2 < filePos)
    (refused : (reserve (stop - start) (d.seek filePos .start s).2).1 = false) :
    loadAsking reserve d space filePos start stop patchable s =
      (.cannotAllocate, space, (reserve (stop - start) (d.seek filePos .start s).2).2) := by
  have unknown : ¬ (0 ≤ saturatingSub (d.size (d.seek filePos .start s).2) filePos ∧
      saturatingSub (d.size (d.seek filePos .start s).2) filePos < (stop - start : Nat)) :=
    fun known => Int.not_lt.2 known.1 (saturatingSub_of_lt behind)
  unfold loadAsking
  rw [if_neg (Nat.not_lt.2 ordered)]
  dsimp only
  rw [if_neg (not_not_intro reached), if_neg unknown, refused]
  rfl

end AddressSpace

/-! ## Sizes and seeks -/

theorem OpenFile.size_seek (fs : Files) (offset : Int) (whence : Whence) (f : OpenFile) :
    (f.seek fs offset whence).2.size fs = f.size fs := by
  cases f with
  | file id mode pos => simp only [seek]; split <;> rfl
  | directory pos => simp only [seek]; split <;> rfl
  | pipe pending => rfl

/-- A seek leaves the size as it was. -/
theorem Source.size_seek (offset : Int) (whence : Whence) (x : Source × Environment) :
    Source.size (Source.seek offset whence x).2 = Source.size x := by
  obtain ⟨source, env⟩ := x
  cases source with
  | file id pos => simp only [seek]; split <;> rfl
  | shared n =>
    simp only [seek]
    cases found : env.openFiles.get? n with
    | some f => simp [size, found, Keyed.get?_set, OpenFile.size_seek]
    | none => rfl
  | window w => simp only [seek, Window.seek]; split <;> rfl
  | supplied s => simp only [seek, Supplied.seek]; split <;> rfl

namespace World

variable {r : StreamRef} {filePos : Int} {start stop : Nat} {patchable : Bool} {w : World}

theorem size_seek (w : World) (r : StreamRef) (offset : Int) (whence : Whence) :
    (w.seek r offset whence).2.size r = w.size r := by
  rcases (Alike.refl r w).cases with ⟨gone, -⟩ | ⟨x, -, hx, -, -⟩
  · simp only [World.seek, withStream_of_gone gone]
  · obtain ⟨-, after⟩ := (simulates_source r).seek offset whence hx
    calc (w.seek r offset whence).2.size r
        = Source.size (Source.seek offset whence x).2 := (simulates_source r).size after
      _ = Source.size x := Source.size_seek offset whence x
      _ = w.size r := ((simulates_source r).size hx).symm

theorem space_seek (w : World) (r : StreamRef) (offset : Int) (whence : Whence) :
    (w.seek r offset whence).2.space = w.space := by
  simp only [seek, withStream]
  cases w.table.entry? r <;> rfl

/-! ## How loads past the end end -/

/-- The load ends with this outcome right after the seek: it does whatever an allocator would answer and do, and
whatever a read would give and do, so it asks for neither. -/
structure EndsUnasked (r : StreamRef) (filePos : Int) (start stop : Nat) (patchable : Bool) (w : World)
    (outcome : LoadOutcome) : Prop where
  unasked : ∀ (reserve : Nat → World → Bool × World) (read : Nat → World → Transfer × World),
    AddressSpace.loadAsking reserve { device r with read := read } w.space filePos start stop patchable w =
      (outcome, w.space, (w.seek r filePos .start).2)
  ends : w.loadSpace r filePos start stop patchable =
    (outcome.status, (w.seek r filePos .start).2.noteAll outcome.event?)

theorem endsUnasked_of_unasked {outcome : LoadOutcome}
    (unasked : ∀ (reserve : Nat → World → Bool × World) (read : Nat → World → Transfer × World),
      AddressSpace.loadAsking reserve { device r with read := read } w.space filePos start stop patchable w =
        (outcome, w.space, (w.seek r filePos .start).2)) :
    EndsUnasked r filePos start stop patchable w outcome := by
  refine ⟨unasked, ?_⟩
  have loaded := unasked (fun n v => (w.allocator.reserves n, v)) (device r).read
  rw [← AddressSpace.load_eq_loadAsking] at loaded
  unfold loadSpace
  rw [loaded]
  dsimp only
  rw [← space_seek w r filePos .start]

/-- **Loads past the end.** Let a load from some position ask for more than the size of the stream leaves there. If the
stream can be sought to the position, the load is refused as one past the end, before a buffer is reserved and before
anything is read, if and only if the position is in the stream or at its end. Behind the end it asks for a buffer for all
of the range instead. If the stream cannot be sought there, the load is refused for that, and reserves and reads nothing
either. -/
theorem endsUnasked_pastEnd_iff (w : World) (r : StreamRef) {filePos : Int} {start stop : Nat} (nonempty : start < stop)
    (beyond : w.size r < filePos + (stop - start : Nat)) (patchable : Bool) :
    let sought := w.seek r filePos .start
    (sought.1 = filePos → (EndsUnasked r filePos start stop patchable w .pastEnd ↔ filePos ≤ w.size r)) ∧
      (sought.1 = filePos → w.size r < filePos → ∀ reserve : Nat → World → Bool × World,
        (reserve (stop - start) sought.2).1 = false →
        AddressSpace.loadAsking reserve (device r) w.space filePos start stop patchable w =
          (.cannotAllocate, w.space, (reserve (stop - start) sought.2).2)) ∧
      (sought.1 ≠ filePos → EndsUnasked r filePos start stop patchable w .seekFailed) := by
  intro sought
  have ordered := Nat.le_of_lt nonempty
  have size : sought.2.size r = w.size r := w.size_seek r filePos .start
  have asks : sought.1 = filePos → w.size r < filePos → ∀ reserve : Nat → World → Bool × World,
      (reserve (stop - start) sought.2).1 = false →
      AddressSpace.loadAsking reserve (device r) w.space filePos start stop patchable w =
        (.cannotAllocate, w.space, (reserve (stop - start) sought.2).2) := by
    intro reached behind reserve refused
    exact AddressSpace.loadAsking_of_lt ordered reached (Int.lt_of_le_of_lt (Int.le_of_eq size) behind) refused
  refine ⟨fun reached => ⟨fun refused => ?_, fun inside => ?_⟩, asks, fun elsewhere => ?_⟩
  · -- behind the end an allocator that refuses is heard
    by_contra behind
    have asked := asks reached (Int.not_le.1 behind) (fun _ w => (false, w)) rfl
    have unasked := refused.unasked (fun _ w => (false, w)) (device r).read
    exact LoadOutcome.noConfusion (congrArg Prod.fst (asked.symm.trans unasked))
  · refine endsUnasked_of_unasked fun reserve read => ?_
    exact AddressSpace.loadAsking_of_le ordered reached (Int.le_trans inside (Int.le_of_eq size.symm))
      (Int.lt_of_le_of_lt (Int.le_of_eq size) beyond)
  · refine endsUnasked_of_unasked fun reserve read => ?_
    exact AddressSpace.loadAsking_of_not_reached ordered elsewhere

/-- A world with one stream, on a file of ten bytes. -/
def tenBytes : World :=
  (register { env := { files := { contents := [(0, (Bytes.counting 48 10).toArray)] } } } .created (.file 0 0)).2

/-- From the fifth byte on there are fewer than seven. -/
theorem endsUnasked_tenBytes :
    tenBytes.size .first < 4 + (7 - 0 : Nat) ∧
      tenBytes.loadSpace .first 4 0 7 true = (0, (tenBytes.seek .first 4 .start).2.note .pastEnd) := by
  have beyond : tenBytes.size .first < 4 + (7 - 0 : Nat) := by decide
  obtain ⟨inside, -, -⟩ := endsUnasked_pastEnd_iff tenBytes .first (by decide) beyond true
  have unasked := (inside (by decide)).2 (by decide)
  exact ⟨beyond, unasked.ends⟩

/-- **From behind the end** a buffer is asked for, however long the range is. -/
theorem not_endsUnasked_tenBytes :
    tenBytes.size .first = 10 ∧ (tenBytes.seek .first 20 .start).1 = 20 ∧
      tenBytes.loadSpace .first 20 0 0x1000000000000000 true =
        (0, (tenBytes.seek .first 20 .start).2.note .cannotAllocate) ∧
      ¬ EndsUnasked .first 20 0 0x1000000000000000 true tenBytes .pastEnd := by
  have ends : tenBytes.loadSpace .first 20 0 0x1000000000000000 true =
      (0, (tenBytes.seek .first 20 .start).2.note .cannotAllocate) := by rfl
  refine ⟨by decide, by decide, ends, fun refused => ?_⟩
  have logged : ((tenBytes.seek .first 20 .start).2.note .cannotAllocate).log =
      ((tenBytes.seek .first 20 .start).2.note .pastEnd).log :=
    congrArg (·.2.log) (ends.symm.trans refused.ends)
  exact absurd logged (by decide)

end World
end ScriptStreams
