import ScriptStreams.Method
import ScriptStreams.Proofs.Loading
import ScriptStreams.Proofs.Streams
/-!
# Loads from before the beginning

No stream has a negative position, so a load from one is to be refused. What refuses it is that the seek
does not give the position asked for; but a seek that fails gives -1. So a load from -1 slips through
(`World.Slips`) and copies what the stream has from wherever it stands, unless it asks for more than the
size and one, cannot be reserved, or gets too few bytes. All other loads from negative positions are
refused (`negativeLoad_of_neg`).
-/
namespace ScriptStreams

theorem landing_start_of_neg {pos size : Nat} {offset : Int} (h : offset < 0) :
    landing pos size offset .start = none := by
  have outside : ¬ (0 ≤ ((Whence.start.base pos size : Nat) : Int) + offset ∧
      ((Whence.start.base pos size : Nat) : Int) + offset ≤ maxPosition) := by
    simp only [Whence.base]
    omega
  exact if_neg outside

theorem Source.seek_start_of_neg {offset : Int} (h : offset < 0) (x : Source × Environment) :
    (Source.seek offset .start x).1 = -1 := by
  obtain ⟨source, env⟩ := x
  cases source with
  | file id pos => simp only [seek, landing_start_of_neg h]
  | shared n =>
    simp only [seek]
    split
    · next f _ => cases f <;> simp only [OpenFile.seek, landing_start_of_neg h]
    · rfl
  | window w => simp only [seek, Window.seek, landing_start_of_neg h]
  | supplied s => simp [seek, Supplied.seek, landing_start_of_neg h]

namespace World

/-- **No stream can be sought to before its beginning.** -/
theorem seek_start_of_neg {offset : Int} (h : offset < 0) (r : StreamRef) (w : World) :
    (w.seek r offset .start).1 = -1 := by
  rcases (Alike.refl r w).cases with ⟨gone, -⟩ | ⟨x, -, hx, -, -⟩
  · simp [World.seek, withStream_of_gone gone]
  · exact ((simulates_source r).seek offset .start hx).1.trans (Source.seek_start_of_neg h x)

theorem alike_seek_start_of_neg {offset : Int} (h : offset < 0) (r : StreamRef) (w : World) :
    Alike r (w.seek r offset .start).2 w :=
  alike_of_seek_neg (Int.lt_of_le_of_lt (Int.le_of_eq (seek_start_of_neg h r w)) (by decide))

/-- A load from `filePos`, before the beginning, that is not refused: the code for a failed seek passes for the
position, what is left of the stream is taken for its size and one, and the bytes come from where the
stream stands. -/
structure Slips (r : StreamRef) (filePos : Int) (start stop : Nat) (w : World) : Prop where
  sentinel : filePos = -1
  ordered : start ≤ stop
  inSize : -1 ≤ w.size r → (stop - start : Nat) ≤ w.size r + 1
  reservable : w.allocator.reserves (stop - start) = true
  delivered : ((device r).readFull (stop - start) (stop - start) w).1.length = stop - start

variable {r : StreamRef} {filePos : Int} {start stop : Nat} {patchable : Bool} {w w' : World}

theorem slips_congr (alike : Alike r w w') (memory : w.allocator = w'.allocator) :
    Slips r filePos start stop w ↔ Slips r filePos start stop w' := by
  have size : w.size r = w'.size r := (simulates_alike r).size alike
  have full := ((simulates_alike r).readFull (stop - start) (stop - start) alike).1
  constructor
  · rintro ⟨sentinel, ordered, inSize, reservable, delivered⟩
    exact ⟨sentinel, ordered, size ▸ inSize, memory ▸ reservable, full ▸ delivered⟩
  · rintro ⟨sentinel, ordered, inSize, reservable, delivered⟩
    exact ⟨sentinel, ordered, size ▸ inSize, memory ▸ reservable, full ▸ delivered⟩

theorem loads_iff_slips (negative : filePos < 0) :
    AddressSpace.Loads w.allocator (device r) filePos start stop w ↔ Slips r filePos start stop w := by
  have failed : ((device r).seek filePos .start w).1 = -1 := seek_start_of_neg negative r w
  have alike : Alike r ((device r).seek filePos .start w).2 w := alike_seek_start_of_neg negative r w
  have size : (device r).size ((device r).seek filePos .start w).2 = w.size r := (simulates_alike r).size alike
  have full := ((simulates_alike r).readFull (stop - start) (stop - start) alike).1
  constructor
  · rintro ⟨ordered, reached, inSize, reservable, delivered⟩
    obtain rfl : filePos = -1 := reached.symm.trans failed
    refine ⟨rfl, ordered, ?_, reservable, full ▸ delivered⟩
    rw [size] at inSize
    have short := w.allocator.addressable reservable
    simp only [saturatingSub, Allocator.maxBlock] at inSize short
    omega
  · rintro ⟨rfl, ordered, inSize, reservable, delivered⟩
    refine ⟨ordered, failed, ?_, reservable, full ▸ delivered⟩
    rw [size]
    have short := w.allocator.addressable reservable
    simp only [saturatingSub, Allocator.maxBlock] at short ⊢
    omega

/-- How a load of `start..stop` from a position before the beginning ends: with this status, and with these
ranges in the address space. -/
structure NegativeLoad (r : StreamRef) (filePos : Int) (start stop : Nat) (patchable : Bool) (w : World)
    (status : Int) (after : AddressSpace) : Prop where
  slipped : Slips r filePos start stop w → status = 1 ∧
    after = w.space.replace
      ⟨start, stop, ((device r).readFull (stop - start) (stop - start) w).1, if patchable then some (-1) else none⟩
  refused : ¬ Slips r filePos start stop w → status = 0 ∧ after = w.space

theorem NegativeLoad.congr {status : Int} {after : AddressSpace}
    (h : NegativeLoad r filePos start stop patchable w status after) (alike : Alike r w w') (space : w.space = w'.space)
    (memory : w.allocator = w'.allocator) :
    NegativeLoad r filePos start stop patchable w' status after where
  slipped slips := by
    rw [← space, ← ((simulates_alike r).readFull (stop - start) (stop - start) alike).1]
    exact h.slipped ((slips_congr alike memory).2 slips)
  refused refused := by
    rw [← space]
    exact h.refused fun slips => refused ((slips_congr alike memory).1 slips)

theorem negativeLoad_loadSpace (w : World) (r : StreamRef) (negative : filePos < 0) (start stop : Nat)
    (patchable : Bool) :
    NegativeLoad r filePos start stop patchable w (w.loadSpace r filePos start stop patchable).1
      (w.loadSpace r filePos start stop patchable).2.space := by
  have space : (w.loadSpace r filePos start stop patchable).2.space =
      (w.space.load w.allocator (device r) filePos start stop patchable w).2.1 := (noteAll_keeps _ _).2.2
  rw [space]
  constructor
  · intro slips
    have full := ((simulates_alike r).readFull (stop - start) (stop - start) (alike_seek_start_of_neg negative r w)).1
    have loads := (loads_iff_slips negative).2 slips
    refine ⟨AddressSpace.status_load_eq_one.2 loads, ?_⟩
    rw [(AddressSpace.load_of_loads loads).2, ← full, AddressSpace.rangeFrom, slips.sentinel]
    rfl
  · intro refused
    exact AddressSpace.load_of_not_loads fun loads => refused ((loads_iff_slips negative).1 loads)

end World

/-! ## Through handles and scripts -/

namespace Handle

variable {r : StreamRef} {filePos : Int} {w : World}

/-- The status and the address space are those of the load that the call makes. -/
theorem negativeLoad_copyRange {h : Handle} (hr : h.ref? = some r) (loader : w.host.fixedLoader = none)
    (negative : filePos < 0) (start stop : Nat) (patchable : Bool) :
    ∃ status w', h.copyRange filePos start stop patchable w = (.ok status, w') ∧
      w.NegativeLoad r filePos start stop patchable status w'.space := by
  have load : (w.atCall .loadRange).loadRange r filePos start stop patchable =
      (w.atCall .loadRange).loadSpace r filePos start stop patchable := by
    simp only [World.loadRange, show (w.atCall .loadRange).host.fixedLoader = none from loader]
  have outcome := ((w.atCall .loadRange).negativeLoad_loadSpace r negative start stop patchable).congr
    (w.alike_atCall .loadRange r) rfl rfl
  rw [← load] at outcome
  have copied : h.copyRange filePos start stop patchable w =
      (.ok (w.call .loadRange (World.loadRange r filePos start stop patchable)).1,
        (w.call .loadRange (World.loadRange r filePos start stop patchable)).2) := by simp only [copyRange, hr]
  exact ⟨_, _, copied, outcome⟩

theorem addressArg_of_int (m : Method) {args : List Value} {i n : Nat} (h : args[i]? = some (.int n)) :
    Method.addressArg m args i = .ok n := by
  simp [Method.addressArg, Method.intArg, h, Value.asInt?]

theorem ofCall_file2base (filePos : Int) (start stop : Nat) (patchable : Bool) :
    Request.ofCall "file2base" [.int filePos, .int start, .int stop, .bool patchable] =
      .ok (.copyRange filePos start stop patchable) := by
  have named : Method.named? "file2base" = some .file2base := Method.named?_name .file2base
  have requested : Method.request .file2base [.int filePos, .int start, .int stop, .bool patchable] =
      .ok (.copyRange filePos start stop patchable) := by
    unfold Method.request
    rw [addressArg_of_int (i := 1) (n := start) .file2base rfl, addressArg_of_int (i := 2) (n := stop) .file2base rfl]
    rfl
  unfold Request.ofCall
  rw [named]
  exact requested

theorem negativeLoad_callMethod {h : Handle} (hr : h.ref? = some r) (loader : w.host.fixedLoader = none)
    (negative : filePos < 0) (start stop : Nat) (patchable : Bool) :
    ∃ status w', h.callMethod "file2base" [.int filePos, .int start, .int stop, .bool patchable] w =
        (.ok (.int status), h, w') ∧
      w.NegativeLoad r filePos start stop patchable status w'.space := by
  obtain ⟨status, w', copied, outcome⟩ := negativeLoad_copyRange hr loader negative start stop patchable
  refine ⟨status, w', ?_, outcome⟩
  simp only [callMethod, ofCall_file2base, perform, copied, intResult]

end Handle

namespace World

/-- **A load from before the beginning** of any stream, live or gone, wherever it stands, is refused and leaves
the address space alone, except where the failed seek passes for the position -1: then it copies bytes from
where the stream stands. It is the same through a handle and through a script's call, if the host
loads into the address space at all. -/
theorem negativeLoad_of_neg (w : World) (r : StreamRef) {filePos : Int} (negative : filePos < 0) (start stop : Nat)
    (patchable : Bool) :
    w.NegativeLoad r filePos start stop patchable (w.loadSpace r filePos start stop patchable).1
        (w.loadSpace r filePos start stop patchable).2.space ∧
      ∀ h : Handle, h.ref? = some r → w.host.fixedLoader = none →
        (∃ status w', h.copyRange filePos start stop patchable w = (.ok status, w') ∧
          w.NegativeLoad r filePos start stop patchable status w'.space) ∧
        (∃ status w', h.callMethod "file2base" [.int filePos, .int start, .int stop, .bool patchable] w =
            (.ok (.int status), h, w') ∧
          w.NegativeLoad r filePos start stop patchable status w'.space) := by
  refine ⟨w.negativeLoad_loadSpace r negative start stop patchable, fun h hr loader => ⟨?_, ?_⟩⟩
  · exact Handle.negativeLoad_copyRange hr loader negative start stop patchable
  · exact Handle.negativeLoad_callMethod hr loader negative start stop patchable

/-- A world with one stream, on a file of six bytes. -/
def sixBytes : World :=
  (register { env := { files := { contents := [(0, (Bytes.counting 97 6).toArray)] } } } .created (.file 0 0)).2

theorem negativeLoad_sixBytes :
    (sixBytes.loadSpace .first (-2) 0 4 true).1 = 0 ∧ (sixBytes.loadSpace .first (-2) 0 4 true).2.space = [] :=
  (negativeLoad_of_neg sixBytes .first (by decide) 0 4 true).1.refused fun slips => absurd slips.sentinel (by decide)

/-- From position -1 the same load puts the first bytes of the file in place. -/
theorem loadSpace_sixBytes_slips :
    (sixBytes.loadSpace .first (-1) 0 4 true).1 = 1 ∧
      (sixBytes.loadSpace .first (-1) 0 4 true).2.space = [⟨0, 4, Bytes.counting 97 4, some (-1)⟩] := by
  decide

end World
end ScriptStreams
