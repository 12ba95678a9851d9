import Mathlib.Data.Nat.Digits.Defs
import ScriptStreams.Proofs.ShortReads
import ScriptStreams.Proofs.TableRuns
/-!
# Quantities in a byte order

A swapped read is a plain read whose bytes are turned round if they are a whole quantity in big-endian order
(`Device.readSwapped_eq`), and turning them round makes the little-endian number of them the big-endian one
(`Bytes.littleEndian_reverse`). A handle gives such a read no more and no less than the plain one delivers: its scratch
buffer is longer than the quantity, but what is behind the quantity does not show
(`Handle.readSwapped_eq_readBytes`).
-/
namespace ScriptStreams

namespace Bytes

/-- The number whose least significant byte comes first. -/
def littleEndian (bs : Bytes) : Nat := Nat.ofDigits 256 (bs.map UInt8.toNat)

/-- The number whose most significant byte comes first. -/
def bigEndian (bs : Bytes) : Nat := bs.foldl (fun number b => number * 256 + b.toNat) 0

theorem littleEndian_reverse (bs : Bytes) : littleEndian bs.reverse = bigEndian bs := by
  rw [littleEndian, Nat.ofDigits_eq_foldr, List.map_reverse, List.foldr_reverse, List.foldl_map, bigEndian]
  simp only [Nat.cast_id, Nat.add_comm, Nat.mul_comm]

end Bytes

/-! ## What a read counts -/

/-- A transfer for `n` bytes puts down the bytes that it counts, or none, and counts no more than `n`. -/
structure Transfer.Counts (n : Nat) (t : Transfer) : Prop where
  counted : t.bytes = [] ∨ t.count = t.bytes.length
  within : t.count ≤ n

section Piecemeal

variable {σ : Type} {ask : Nat → σ → Delivery × σ}

theorem length_gather_le (short : ∀ want s bs, (ask want s).1 = .bytes bs → bs.length ≤ want) (fuel want : Nat) (s : σ) :
    (gather ask fuel want s).1.length ≤ want := by
  induction fuel generalizing want s with
  | zero => exact Nat.zero_le _
  | succ fuel ih =>
    unfold gather
    split
    · exact Nat.zero_le _
    · split
      · exact Nat.zero_le _
      · exact Nat.zero_le _
      · next bs s' _ asked =>
        have first := short want s bs (by rw [asked])
        have rest := ih (want - bs.length) s'
        simp only [List.length_append]
        omega

theorem counts_fill (short : ∀ want s bs, (ask want s).1 = .bytes bs → bs.length ≤ want) (want : Nat) (s : σ) :
    (fill ask want s).1.Counts want := by
  have length := length_gather_le short want want s
  unfold fill
  split
  · exact ⟨.inl rfl, by dsimp only; omega⟩
  · next bs failed s' _ gathered =>
    rw [gathered] at length
    exact ⟨.inr rfl, Int.ofNat_le.2 length⟩

end Piecemeal

/-- What the system delivers at once is no more than it was asked for. -/
theorem OpenFile.length_deliver_le (fs : Files) (want : Nat) (f : OpenFile) (bs : Bytes)
    (delivered : (f.deliver fs want).1 = .bytes bs) : bs.length ≤ want := by
  cases f with
  | file id mode pos =>
    simp only [deliver] at delivered
    split at delivered
    · cases delivered
      exact length_slice_le _ pos want
    · cases delivered
  | directory pos => cases delivered
  | pipe pending =>
    cases delivered
    exact List.length_take_le _ _

theorem Source.counts_read {x : Source × Environment} {n : Nat}
    (honest : ∀ s, x.1 = .supplied s → s.failCode ≤ n) : (Source.read n x).1.Counts n := by
  obtain ⟨source, env⟩ := x
  cases source with
  | file id pos =>
    simp only [read, fill_deliverFile]
    exact ⟨.inr rfl, Int.ofNat_le.2 (length_slice_le _ pos n)⟩
  | shared k =>
    simp only [read]
    split
    · next f _ => exact counts_fill (OpenFile.length_deliver_le env.files) n f
    · exact ⟨.inl rfl, by dsimp only; omega⟩
  | window w =>
    obtain ⟨count, read, counted⟩ := window_read_eq w env n
    have short := length_delivered (.window w, env) n
    simp only [Source.read, read]
    rcases counted with rfl | ⟨nothing, low⟩
    · exact ⟨.inr rfl, by dsimp only; omega⟩
    · exact ⟨.inl nothing, by dsimp only; omega⟩
  | supplied s =>
    simp only [read, Supplied.read]
    split
    · exact ⟨.inl rfl, honest s rfl⟩
    · refine ⟨.inr rfl, Int.ofNat_le.2 ((length_slice_le _ s.pos _).trans ?_)⟩
      split <;> omega

/-! ## What a read delivers -/

namespace Transfer

variable {n m : Nat} {t : Transfer}

/-- The bytes that the transfer leaves in cleared memory, as many as it counts. -/
def delivered (t : Transfer) : Bytes := t.bytes ++ Bytes.zeros (t.count.toNat - t.bytes.length)

/-- The transfer with its bytes turned round, if they are a whole quantity of `n` bytes in big-endian order. -/
def swapped (bigEndian : Bool) (n : Nat) (t : Transfer) : Transfer :=
  if bigEndian && t.count = n && Device.hasByteOrder n then ⟨t.count, t.bytes.reverse⟩ else t

theorem count_swapped (bigEndian : Bool) (n : Nat) (t : Transfer) : (t.swapped bigEndian n).count = t.count := by
  unfold swapped
  split <;> rfl

theorem Counts.swapped (counts : t.Counts n) (bigEndian : Bool) : (t.swapped bigEndian n).Counts n := by
  unfold Transfer.swapped
  split
  · exact ⟨by simpa using counts.counted, counts.within⟩
  · exact counts

theorem Counts.length_le (counts : t.Counts n) : t.bytes.length ≤ t.count.toNat := by
  rcases counts.counted with nothing | counted
  · rw [nothing]
    exact Nat.zero_le _
  · omega

theorem Counts.length_delivered (counts : t.Counts n) (some_data : 0 ≤ t.count) : t.delivered.length = t.count := by
  have covered := counts.length_le
  rw [delivered, List.length_append, Bytes.length_zeros]
  omega

/-- However long the memory is, the counted part of it is what was delivered. -/
theorem Counts.take_filled (counts : t.Counts n) (room : n ≤ m) :
    (Bytes.filled m t.bytes).take t.count.toNat = t.delivered := by
  have covered := counts.length_le
  have within := counts.within
  have zeros : (Bytes.zeros (m - t.bytes.length)).take (t.count.toNat - t.bytes.length) =
      Bytes.zeros (t.count.toNat - t.bytes.length) := by
    rw [Bytes.zeros, List.take_replicate, Nat.min_eq_left (by omega), Bytes.zeros]
  rw [Bytes.filled, List.take_take, Nat.min_eq_left (by omega), Bytes.overlay, Bytes.zeros, List.drop_replicate,
    ← Bytes.zeros, List.take_append, List.take_of_length_le covered, zeros, delivered]

/-- The same of memory that was read over at its front. -/
theorem Counts.take_overlay (counts : t.Counts n) :
    (Bytes.overlay (Bytes.zeros n) t.bytes).take t.count.toNat = t.delivered := by
  have within := counts.within
  rw [← counts.take_filled (Nat.le_refl n), Bytes.filled, List.take_take, Nat.min_eq_left (by omega)]

/-- **Turning a quantity round**: the whole of it, if it came whole, and nothing else. -/
theorem Counts.delivered_swapped (counts : t.Counts n) (some_data : 0 ≤ t.count) (bigEndian : Bool) :
    (t.swapped bigEndian n).delivered =
      if bigEndian = true ∧ t.delivered.length = n ∧ (n = 2 ∨ n = 4 ∨ n = 8) then t.delivered.reverse
      else t.delivered := by
  have came_whole : t.count = n ↔ t.delivered.length = n := by
    have length := counts.length_delivered some_data
    omega
  have turned : (⟨t.count, t.bytes.reverse⟩ : Transfer).delivered = t.delivered.reverse := by
    rcases counts.counted with nothing | counted
    · simp [delivered, nothing, Bytes.zeros]
    · simp [delivered, counted, Bytes.zeros]
  simp only [Transfer.swapped, Device.hasByteOrder, Bool.and_eq_true, Bool.or_eq_true, decide_eq_true_eq, came_whole, and_assoc,
    or_assoc]
  split
  · exact turned
  · rfl

end Transfer

namespace Device

variable {σ : Type}

/-- A swapped read is a plain read, its bytes turned round. -/
theorem readSwapped_eq (d : Device σ) (bigEndian : Bool) (n : Nat) (s : σ) :
    d.readSwapped bigEndian n s = ((d.read n s).1.swapped bigEndian n, (d.read n s).2) := by
  unfold readSwapped Transfer.swapped
  dsimp only
  split <;> rfl

end Device

/-! ## Swapped reads of streams -/

namespace World

variable {α : Type} {r : StreamRef} {w v : World}

/-- A stream operation sees nothing of the world but the streams and what surrounds them. -/
theorem Untouched.withStream (untouched : w.Untouched v) (r : StreamRef)
    (f : Source × Environment → α × Source × Environment) :
    (v.withStream r f).1 = (w.withStream r f).1 ∧ (w.withStream r f).2.Untouched (v.withStream r f).2 := by
  obtain ⟨table, env⟩ := untouched
  unfold World.withStream
  rw [table, env]
  split
  · exact ⟨rfl, table, env⟩
  · exact ⟨rfl, rfl, rfl⟩

theorem Untouched.readBytes (untouched : w.Untouched v) (r : StreamRef) (n : Nat) :
    (v.readBytes r n).1 = (w.readBytes r n).1 ∧ (w.readBytes r n).2.Untouched (v.readBytes r n).2 := by
  obtain ⟨same, after⟩ := untouched.withStream r (Source.read n)
  exact ⟨congrArg (·.getD ⟨-1, []⟩) same, after⟩

theorem readSwapped_eq (r : StreamRef) (bigEndian : Bool) (n : Nat) (w : World) :
    w.readSwapped r bigEndian n = ((w.readBytes r n).1.swapped bigEndian n, (w.readBytes r n).2) := by
  unfold readSwapped readBytes withStream
  cases w.table.entry? r with
  | none =>
    -- the code for a failed read is the count of no quantity
    have uncounted : ((-1 : Int) = n) = False := eq_false (by omega)
    simp only [Option.getD_none, Transfer.swapped, uncounted, decide_false, Bool.and_false, Bool.false_and,
      Bool.false_eq_true, if_false]
  | some e =>
    simp only [Device.readSwapped_eq, Option.getD_some]
    rfl

theorem counts_readBytes {n : Nat} (honest : ∀ o s, w.table.entry? r = some ⟨o, .supplied s⟩ → s.failCode ≤ n) :
    (w.readBytes r n).1.Counts n := by
  unfold readBytes withStream
  cases entry : w.table.entry? r with
  | none => exact ⟨.inl rfl, by simp only [Option.getD_none]; omega⟩
  | some e =>
    obtain ⟨o, source⟩ := e
    refine Source.counts_read fun s (supplied : source = .supplied s) => honest o s ?_
    rw [entry, supplied]

end World

namespace Handle

variable {h : Handle} {r : StreamRef} {n : Nat} {w : World}

/-- **A swapped read of a handle**, if it may have its scratch buffer, by the plain read of its stream. -/
theorem readSwapped_of_grants (ref : h.ref? = some r) (pool : w.pool.Sound)
    (granted : w.grants (n + scratchGuard) = true) (bigEndian : Bool) :
    let t := (w.readBytes r n).1.swapped bigEndian n
    (h.readSwapped n bigEndian w).1 = .ok (if t.count < 0 then none
      else some ((Bytes.filled (n + scratchGuard) t.bytes).take t.count.toNat)) ∧
      (w.readBytes r n).2.Untouched (h.readSwapped n bigEndian w).2 := by
  intro t
  have short : ¬ sizeLimit ≤ n + scratchGuard := fun huge => not_grants_of_huge huge _ granted
  obtain ⟨b, lent, acquired⟩ := Scratch.Pool.acquire_of_grants granted
  obtain ⟨backed, empty⟩ := pool.of_acquire acquired
  have called : w.Untouched ({ w with pool := lent }.atCall .readSwapped) := ⟨rfl, rfl⟩
  obtain ⟨read, table, env⟩ := called.readBytes r n
  simp only [readSwapped, ref, if_neg short, withScratch, acquired, World.call_eq, World.readSwapped_eq, read]
  refine ⟨?_, table, env⟩
  rw [Scratch.Buffer.take_eq, Scratch.Buffer.Cleared.bytes_write ⟨backed, empty⟩]
  rfl

/-- **Swapped reads are plain reads in the declared byte order.** Let a handle read `n` bytes of its stream in a byte
order, with the scratch buffer that this takes; a stream that the caller supplied fails with a code that is no count
above `n`. Then all streams and what surrounds them are left as a plain read of `n` bytes into cleared memory leaves
them. There is no data if the count of that read is negative; else the data are the bytes that it counts, turned round
if they are big-endian and a whole quantity of 2, 4 or 8 bytes, and as they came if not. So a quantity that came whole
has the number, in little-endian order, that was stored in the declared one. -/
theorem readSwapped_eq_readBytes (ref : h.ref? = some r) (pool : w.pool.Sound)
    (granted : w.grants (n + scratchGuard) = true)
    (honest : ∀ o s, w.table.entry? r = some ⟨o, .supplied s⟩ → s.failCode ≤ n) (bigEndian : Bool) :
    let plain := w.readBytesInto r (Bytes.zeros n)
    let bs := plain.1.2.take plain.1.1.toNat
    let whole := bs.length = n ∧ (n = 2 ∨ n = 4 ∨ n = 8)
    let turned := if bigEndian = true ∧ whole then bs.reverse else bs
    (h.readSwapped n bigEndian w).1 = .ok (if plain.1.1 < 0 then none else some turned) ∧
      plain.2.Untouched (h.readSwapped n bigEndian w).2 ∧
      (whole → Bytes.littleEndian turned = if bigEndian = true then Bytes.bigEndian bs else Bytes.littleEndian bs) := by
  intro plain bs whole turned
  have counts := World.counts_readBytes honest
  have native : plain = (((w.readBytes r n).1.count, Bytes.overlay (Bytes.zeros n) (w.readBytes r n).1.bytes),
      (w.readBytes r n).2) := by
    simp only [plain, World.readBytesInto, Bytes.length_zeros]
  have delivered : bs = (w.readBytes r n).1.delivered := by
    simp only [bs, native]
    exact counts.take_overlay
  obtain ⟨data, after⟩ := readSwapped_of_grants ref pool granted bigEndian
  refine ⟨?_, by rwa [native], fun came_whole => ?_⟩
  · rw [data, (counts.swapped bigEndian).take_filled (Nat.le_add_right n scratchGuard), Transfer.count_swapped, native]
    split
    · rfl
    · next some_data =>
      rw [counts.delivered_swapped (Int.not_lt.1 some_data), ← delivered]
  · cases bigEndian with
    | true => rw [if_pos rfl, ← Bytes.littleEndian_reverse, show turned = bs.reverse from if_pos ⟨rfl, came_whole⟩]
    | false => rw [if_neg Bool.false_ne_true, show turned = bs from if_neg fun big => Bool.false_ne_true big.1]

/-- A window of memory that stands in front of a big-endian number of four bytes. -/
def storedNumber : World :=
  (World.register { env := { image := [⟨4096, #[9, 9, 0x12, 0x34, 0x56, 0x78]⟩] } } .created
    (.window { start := 4096, size := 6, pos := 2 })).2

theorem readSwapped_eq_readBytes_storedNumber :
    let h := Handle.borrow .first
    storedNumber.grants (4 + scratchGuard) = true ∧
      (h.readSwapped 4 true storedNumber).1 = .ok (some [0x78, 0x56, 0x34, 0x12]) ∧
      Bytes.littleEndian [0x78, 0x56, 0x34, 0x12] = 0x12345678 := by
  intro h
  have granted : storedNumber.grants (4 + scratchGuard) = true := by decide
  have honest : ∀ o s, storedNumber.table.entry? .first = some ⟨o, .supplied s⟩ → s.failCode ≤ (4 : Nat) := by
    intro o s supplied
    cases supplied
  obtain ⟨data, -, number⟩ := readSwapped_eq_readBytes (h := h) rfl Scratch.Pool.sound_empty granted honest true
  exact ⟨granted, data, number ⟨by decide, by decide⟩⟩

end Handle
end ScriptStreams
