import ScriptStreams.Session.HandleStep
import ScriptStreams.Proofs.Backing
import ScriptStreams.Proofs.Pool
import ScriptStreams.Proofs.Streams
/-!
# What a handle answers over fixed bytes

`Cursor.answer` says what each step on a stream is to answer, by the bytes and the position alone: lines,
strings and quantities as pieces of the bytes, and no data where no scratch buffer is granted. A handle
whose stream amounts to the cursor (`World.Serves`) gives these answers, one step after the other
(`Serves.performAll`), whatever medium is behind it.
-/
namespace ScriptStreams

/-- The step works on the stream alone. -/
def ReadStep.onStream : ReadStep → Bool
  | seek .. | tell | size | read _ | readLine _ | readCString .. | readSwapped .. | readByte => true
  | _ => false

/-! ## The reference -/

namespace Cursor

/-- Data, if the read may have a scratch buffer of `n` bytes; else none, and nothing moves. -/
def withScratch (grants : Nat → Bool) (n : Nat) (c : Cursor) (f : Cursor → Option Bytes × Cursor) :
    Option Bytes × Cursor :=
  if grants n then f c else (none, c)

/-- Up to `n` bytes; none if there are none. -/
def bytes (n : Nat) (c : Cursor) : Option Bytes × Cursor :=
  (if (c.take n).1 = [] then none else some (c.take n).1, (c.take n).2)

/-- A piece of the bytes that ends with the first `last` or with `n` bytes, up to its first NUL. -/
def piece (last : UInt8) (n : Nat) (c : Cursor) : Option Bytes × Cursor :=
  let span := (through last c.rest).take n
  (if span = [] then none else some (Bytes.untilNul span), c.advance span.length)

/-- A string for a buffer of `n` bytes, from `pos` on unless that is -1; none if there is no such position. -/
def string (n : Nat) (pos : Int) (c : Cursor) : Option Bytes × Cursor :=
  if n = 0 then (none, c)
  else if pos = -1 then c.piece 0 (n - 1)
  else if (c.seek pos .start).1 < 0 then (none, c)
  else (c.seek pos .start).2.piece 0 (n - 1)

/-- `n` bytes, reversed if they are a whole quantity of 2, 4 or 8 bytes in big-endian order. -/
def quantity (n : Nat) (bigEndian : Bool) (c : Cursor) : Option Bytes × Cursor :=
  let got := (c.take n).1
  (some (if bigEndian = true ∧ got.length = n ∧ (n = 2 ∨ n = 4 ∨ n = 8) then got.reverse else got), (c.take n).2)

def ofData (x : Option Bytes × Cursor) : Answer × Cursor :=
  (match x.1 with
    | some bs => .data bs
    | none => .nothing, x.2)

/-- What a step on the stream answers, and where it leaves the cursor. Strings and quantities need a buffer that is
longer than what they read. -/
def answer (grants : Nat → Bool) (c : Cursor) : ReadStep → Answer × Cursor
  | .seek offset whence => (.number (c.seek offset whence).1, (c.seek offset whence).2)
  | .tell => (.number (c.seek 0 .current).1, (c.seek 0 .current).2)
  | .size => (.number c.content.length, c)
  | .read n => ofData (c.withScratch grants n (bytes n))
  | .readLine n => ofData (c.withScratch grants n (piece Bytes.newline (n - 1)))
  | .readCString n pos => ofData (c.withScratch grants (n + 5) (string n (pos.getD (-1))))
  | .readSwapped n bigEndian => ofData (c.withScratch grants (n + 5) (quantity n bigEndian))
  | .readByte => match c.rest with
    | [] => (.nothing, c)
    | b :: _ => (.number b.toNat, c.advance 1)
  | _ => (.unknown, c)

def answers (grants : Nat → Bool) : Cursor → List ReadStep → List Answer
  | _, [] => []
  | c, step :: rest => (c.answer grants step).1 :: (c.answer grants step).2.answers grants rest

end Cursor

/-! ### Composite reads of a cursor -/

namespace Cursor

/-- A read of a text for a buffer of `n` bytes found what `y` gives: the bytes that it puts to the front end with a
NUL, and up to their first NUL they are the text. -/
structure Finds (n : Nat) (x : (Bool × Bytes) × Cursor) (y : Option Bytes × Cursor) : Prop where
  cursor : x.2 = y.2
  found : x.1.1 = y.1.isSome
  text : ∀ bs, y.1 = some bs → ∃ placed, x.1.2 = placed ++ [0] ∧ placed.length < n ∧ Bytes.untilNul placed = bs

theorem finds_readLine (n : Nat) (c : Cursor) :
    Finds n (device.readLine n c) (c.piece Bytes.newline (n - 1)) := by
  cases n with
  | zero => exact ⟨by simp [Device.readLine, piece, advance_zero], by simp [Device.readLine, piece], by simp [piece]⟩
  | succ limit =>
    have short : ((through Bytes.newline c.rest).take limit).length ≤ limit := List.length_take_le _ _
    simp only [Device.readLine, takeLine_eq, piece, Nat.add_sub_cancel]
    generalize (through Bytes.newline c.rest).take limit = line at short
    refine ⟨rfl, ?_, fun bs hbs => ⟨line, rfl, by omega, ?_⟩⟩
    · cases line <;> rfl
    · cases line with
      | nil => simp at hbs
      | cons b line => simpa using hbs

/-- A string is read up to its NUL, which is not part of it. -/
theorem finds_takeString (limit : Nat) (c : Cursor) :
    Finds (limit + 1) (((device.takeString limit c).2.1, (device.takeString limit c).1 ++ [0]),
      (device.takeString limit c).2.2) (c.piece 0 limit) := by
  have short : ((through 0 c.rest).take limit).length ≤ limit := List.length_take_le _ _
  simp only [takeString_eq, piece]
  generalize (through 0 c.rest).take limit = span at short
  have cut := Bytes.untilNul_eq_self (Bytes.zero_not_mem_untilNul span)
  have shorter : (Bytes.untilNul span).length ≤ span.length := (List.takeWhile_sublist _).length_le
  refine ⟨rfl, ?_, fun bs hbs => ⟨Bytes.untilNul span, rfl, by omega, ?_⟩⟩
  · cases span <;> rfl
  · cases span with
    | nil => simp at hbs
    | cons b span => exact cut.trans (by simpa using hbs)

theorem finds_readCString (pos : Int) (n : Nat) (c : Cursor) :
    Finds n (device.readCString pos n c) (c.string n pos) := by
  cases n with
  | zero => exact ⟨by simp [Device.readCString, string], by simp [Device.readCString, string], by simp [string]⟩
  | succ limit =>
    by_cases stays : pos = -1
    · simpa [Device.readCString, string, stays] using finds_takeString limit c
    · by_cases nowhere : (c.seek pos .start).1 < 0
      · have failed : (c.seek pos .start).2 = c := by
          rw [seek_eq] at nowhere ⊢
          split at nowhere
          · exact absurd nowhere (Int.not_lt.2 (Int.natCast_nonneg _))
          · rfl
        refine ⟨?_, ?_, ?_⟩ <;> simp [Device.readCString, string, stays, device, nowhere, failed]
      · simpa [Device.readCString, string, stays, device, nowhere] using finds_takeString limit (c.seek pos .start).2

theorem readSwapped_eq (bigEndian : Bool) (n : Nat) (c : Cursor) :
    ∃ bs, (c.quantity n bigEndian).1 = some bs ∧ bs.length ≤ n ∧
      device.readSwapped bigEndian n c = (⟨bs.length, bs⟩, (c.quantity n bigEndian).2) := by
  have short : (c.take n).1.length ≤ n := List.length_take_le _ _
  refine ⟨_, rfl, ?_, ?_⟩
  · split
    · simpa using short
    · exact short
  · simp only [Device.readSwapped, device, quantity, Device.hasByteOrder, Bool.and_eq_true, Bool.or_eq_true,
      decide_eq_true_eq, Int.natCast_inj, and_assoc, or_assoc]
    split <;> simp

end Cursor

/-! ## Worlds that serve a cursor -/

namespace World

/-- The stream of `r` amounts to the cursor, and scratch buffers are granted as in `v`. -/
structure Serves (r : StreamRef) (v w : World) (c : Cursor) : Prop where
  shows : ∃ x, Stands r w x ∧ Source.Shows x c
  lends : v.LendsAs w

variable {α : Type} {r : StreamRef} {v w : World} {c : Cursor}

theorem LendsAs.withStream (lends : v.LendsAs w) (r : StreamRef) (f : Source × Environment → α × Source × Environment) :
    v.LendsAs (w.withStream r f).2 := by
  unfold World.withStream
  split
  · exact lends
  · exact lends.of_same rfl rfl rfl

/-- What the sources that show the cursor agree on, the world agrees on; the answer of a stream that is gone
does not come up. -/
theorem Serves.withStream (h : Serves r v w c) {f : Source × Environment → α × Source × Environment}
    {y : α × Cursor} (gone : α) (hf : ∀ x, Source.Shows x c → Agree Source.Shows (f x) y) :
    Agree (Serves r v) ((w.withStream r f).1.getD gone, (w.withStream r f).2) y := by
  obtain ⟨⟨x, stands, shows⟩, lends⟩ := h
  obtain ⟨same, stands'⟩ := stands.withStream f
  obtain ⟨value, shows'⟩ := hf x shows
  refine ⟨?_, ⟨_, stands', shows'⟩, lends.withStream r f⟩
  rw [same]
  exact value

theorem Serves.call (h : Serves r v w c) (p : Primitive) {f : World → α × World} {y : α × Cursor}
    (hf : ∀ w, Serves r v w c → Agree (Serves r v) (f w) y) : Agree (Serves r v) (w.call p f) y := by
  obtain ⟨same, ⟨x, stands, shows⟩, lends⟩ := hf (w.atCall p) ⟨h.shows, h.lends.of_same rfl rfl rfl⟩
  rw [call_eq]
  exact ⟨same, ⟨x, stands, shows⟩, lends.of_same rfl rfl rfl⟩

/-- An operation that runs with a scratch buffer runs if one of its length is granted. While the buffer is lent there
may be none for another, but it is given back. -/
theorem Serves.withScratch (h : Serves r v w c) {n : Nat}
    {f : Scratch.Buffer → World → Option Bytes × Scratch.Buffer × World} {g : Cursor → Option Bytes × Cursor}
    (hf : ∀ b v w, b.Backed n → Serves r v w c →
      (f b w).1 = (g c).1 ∧ (f b w).2.1.Backed n ∧ Serves r v (f b w).2.2 (g c).2) :
    Agree (Serves r v) (Handle.withScratch n w f) (c.withScratch v.grants n g) := by
  obtain ⟨shows, lends⟩ := h
  unfold Handle.withScratch Cursor.withScratch
  rw [← lends.grants]
  by_cases granted : w.grants n = true
  · obtain ⟨b, after, acquired⟩ := Scratch.Pool.acquire_of_grants granted
    obtain ⟨lent, -, meanwhile⟩ := lends.acquire acquired
    obtain ⟨same, backed, serves⟩ := hf b _ { w with pool := after } lent ⟨shows, meanwhile⟩
    rw [acquired, if_pos granted]
    exact ⟨same, serves.shows, lends.release acquired serves.lends backed⟩
  · obtain ⟨e, acquired⟩ := Scratch.Pool.acquire_of_not_grants granted
    rw [acquired, if_neg granted]
    exact ⟨rfl, shows, lends.of_same rfl rfl rfl⟩

/-! ### Reads of the stream -/

theorem Serves.seek (h : Serves r v w c) (offset : Int) (whence : Whence) :
    Agree (Serves r v) (w.seek r offset whence) (c.seek offset whence) :=
  h.withStream (-1) fun _ hx => Source.simulates_cursor.seek offset whence hx

theorem Serves.tell (h : Serves r v w c) : Agree (Serves r v) (w.tell r) (c.seek 0 .current) :=
  h.withStream (-1) fun _ hx => Source.simulates_cursor.tell hx

theorem Serves.size (h : Serves r v w c) : w.size r = c.content.length := by
  obtain ⟨⟨x, ⟨⟨o, entry⟩, env⟩, shows⟩, -⟩ := h
  simp only [World.size, entry, env]
  exact shows.size

theorem Serves.readBytes (h : Serves r v w c) (n : Nat) :
    Agree (Serves r v) (w.readBytes r n) (Cursor.device.read n c) :=
  h.withStream (Transfer.mk (-1) []) fun _ hx => Source.simulates_cursor.read n hx

theorem Serves.readLine (h : Serves r v w c) (n : Nat) :
    Agree (Serves r v) (w.readLine r n) (Cursor.device.readLine n c) :=
  h.withStream (false, []) fun _ hx => Source.simulates_cursor.readLine n hx

theorem Serves.readCString (h : Serves r v w c) (pos : Int) (n : Nat) :
    Agree (Serves r v) (w.readCString r pos n) (Cursor.device.readCString pos n c) :=
  h.withStream (false, if n = 0 then [] else [0]) fun _ hx => Source.simulates_cursor.readCString pos n hx

theorem Serves.readByte (h : Serves r v w c) :
    Agree (Serves r v) (w.readByte r) (Cursor.device.nextByte c) :=
  h.withStream none fun _ hx => Source.simulates_cursor.nextByte hx

theorem Serves.readSwapped (h : Serves r v w c) (bigEndian : Bool) (n : Nat) :
    Agree (Serves r v) (w.readSwapped r bigEndian n) (Cursor.device.readSwapped bigEndian n c) :=
  h.withStream (Transfer.mk (-1) []) fun _ hx => Source.simulates_cursor.readSwapped bigEndian n hx

end World

/-! ## Handles -/

namespace Handle

variable {h : Handle} {r : StreamRef} {v w : World} {c : Cursor}

/-- A data step that runs with a scratch buffer. -/
theorem agree_withScratch (serves : World.Serves r v w c) {n : Nat}
    {f : Scratch.Buffer → World → Option Bytes × Scratch.Buffer × World} {g : Cursor → Option Bytes × Cursor}
    (hf : ∀ b v w, b.Backed n → World.Serves r v w c →
      (f b w).1 = (g c).1 ∧ (f b w).2.1.Backed n ∧ World.Serves r v (f b w).2.2 (g c).2) :
    Agree (World.Serves r v)
      (Answer.ofData (.ok (withScratch n w f).1, (withScratch n w f).2))
      (Cursor.ofData (c.withScratch v.grants n g)) := by
  obtain ⟨same, after⟩ := serves.withScratch hf
  generalize withScratch n w f = x at same after
  obtain ⟨data, w'⟩ := x
  obtain rfl : data = (c.withScratch v.grants n g).1 := same
  cases hd : (c.withScratch v.grants n g).1 <;> exact ⟨by simp [Answer.ofData, Cursor.ofData, hd], after⟩

theorem agree_read (hr : h.ref? = some r) (serves : World.Serves r v w c) (n : Nat) :
    Agree (World.Serves r v) (Answer.ofData (h.read n w)) (c.answer v.grants (.read n)) := by
  unfold read
  rw [hr]
  dsimp only [Cursor.answer]
  refine agree_withScratch serves fun b v w backed serves => ?_
  obtain ⟨same, after⟩ := serves.call .readBytes fun _ hw => hw.readBytes n
  refine ⟨?_, backed.write _, after⟩
  rw [same]
  have short : (c.take n).1.length ≤ b.length := backed.length ▸ List.length_take_le _ _
  have back := b.take_write (c.take n).1 short backed.length_le
  simp only [Cursor.device, Cursor.bytes, Int.toNat_natCast, back]
  by_cases empty : (c.take n).1 = [] <;> simp [empty]

/-- A request too long for the size type is not granted either. -/
theorem not_grants_of_huge {n : Nat} (huge : sizeLimit ≤ n + scratchGuard) (w : World) :
    ¬ w.grants (n + scratchGuard) = true := by
  intro granted
  have short := Scratch.Pool.le_of_grants granted
  simp only [sizeLimit, UInt64.size, scratchGuard, Allocator.maxBlock] at huge short
  omega

theorem agree_of_huge (serves : World.Serves r v w c) {n : Nat} (huge : sizeLimit ≤ n + scratchGuard)
    (g : Cursor → Option Bytes × Cursor) :
    Agree (World.Serves r v) (Answer.ofData (.ok none, w)) (Cursor.ofData (c.withScratch v.grants (n + 5) g)) := by
  have refused : ¬ v.grants (n + 5) = true := not_grants_of_huge huge v
  rw [Cursor.withScratch, if_neg refused]
  exact ⟨rfl, serves⟩

/-- A text read into a buffer comes out of it as the reference has it. -/
theorem agree_text {b : Scratch.Buffer} {n : Nat} {x : (Bool × Bytes) × Cursor} {y : Option Bytes × Cursor}
    {read : Bool × Bytes} (same : read = x.1) (finds : Cursor.Finds n x y) (roomy : n ≤ b.length)
    (backed : b.length ≤ b.memory.size) :
    (if read.1 = true then some (b.write read.2).untilNul else none) = y.1 := by
  rw [same, finds.found]
  cases hy : y.1 with
  | none => rfl
  | some bs =>
    obtain ⟨placed, hx, short, text⟩ := finds.text bs hy
    have back := b.untilNul_write placed (by simp; omega) backed
    rw [hx, back, text]
    rfl

theorem agree_readLine (hr : h.ref? = some r) (serves : World.Serves r v w c) (n : Nat) :
    Agree (World.Serves r v) (Answer.ofData (h.readLine n w)) (c.answer v.grants (.readLine n)) := by
  unfold readLine
  rw [hr]
  dsimp only [Cursor.answer]
  refine agree_withScratch serves fun b v w backed serves => ?_
  obtain ⟨same, after⟩ := serves.call .readLine fun _ hw => hw.readLine n
  have finds := Cursor.finds_readLine n c
  exact ⟨agree_text same finds (Nat.le_of_eq backed.length.symm) backed.length_le, backed.write _, finds.cursor ▸ after⟩

theorem agree_readCString (hr : h.ref? = some r) (serves : World.Serves r v w c) (n : Nat) (pos : Option Int) :
    Agree (World.Serves r v) (Answer.ofData (h.readCString n pos w)) (c.answer v.grants (.readCString n pos)) := by
  unfold readCString
  rw [hr]
  dsimp only [Cursor.answer]
  split
  · next huge => exact agree_of_huge serves huge _
  · refine agree_withScratch serves fun b v w backed serves => ?_
    obtain ⟨same, after⟩ := serves.call .readCString fun _ hw => hw.readCString (pos.getD (-1)) n
    have finds := Cursor.finds_readCString (pos.getD (-1)) n c
    have roomy : n ≤ b.length := backed.length ▸ Nat.le_add_right n scratchGuard
    exact ⟨agree_text same finds roomy backed.length_le, backed.write _, finds.cursor ▸ after⟩

theorem agree_readSwapped (hr : h.ref? = some r) (serves : World.Serves r v w c) (n : Nat) (bigEndian : Bool) :
    Agree (World.Serves r v) (Answer.ofData (h.readSwapped n bigEndian w))
      (c.answer v.grants (.readSwapped n bigEndian)) := by
  unfold readSwapped
  rw [hr]
  dsimp only [Cursor.answer]
  split
  · next huge => exact agree_of_huge serves huge _
  · refine agree_withScratch serves fun b v w backed serves => ?_
    obtain ⟨same, after⟩ := serves.call .readSwapped fun _ hw => hw.readSwapped bigEndian n
    obtain ⟨bs, quantity, short, swapped⟩ := Cursor.readSwapped_eq bigEndian n c
    rw [swapped] at same after
    rw [same, quantity]
    have roomy : n ≤ b.length := backed.length ▸ Nat.le_add_right n scratchGuard
    have back := b.take_write bs (by omega) backed.length_le
    refine ⟨?_, backed.write _, after⟩
    simp [back]

theorem agree_readByte (hr : h.ref? = some r) (serves : World.Serves r v w c) :
    Agree (World.Serves r v) (Answer.ofByte (h.readByte w)) (c.answer v.grants .readByte) := by
  obtain ⟨same, after⟩ := serves.call .readByte fun _ hw => hw.readByte
  unfold readByte
  rw [hr]
  dsimp only [Cursor.answer]
  rw [same]
  cases hc : c.rest with
  | nil =>
    rw [Cursor.nextByte_of_nil hc] at after ⊢
    exact ⟨rfl, after⟩
  | cons b bs =>
    rw [Cursor.nextByte_of_cons hc] at after ⊢
    exact ⟨rfl, after⟩

/-- **A step on the stream of a handle** is answered as the reference answers it. -/
theorem agree_perform (hr : h.ref? = some r) (serves : World.Serves r v w c) {step : ReadStep}
    (plain : step.onStream = true) :
    Agree (World.Serves r v) (step.perform h w) (c.answer v.grants step) := by
  cases step with
  | seek offset whence =>
    obtain ⟨same, after⟩ := serves.call .seek fun _ hw => hw.seek offset whence
    simp only [ReadStep.perform, seek, hr]
    exact ⟨congrArg Answer.number same, after⟩
  | tell =>
    obtain ⟨same, after⟩ := serves.call .tell fun _ hw => hw.tell
    simp only [ReadStep.perform, tell, hr]
    exact ⟨congrArg Answer.number same, after⟩
  | size =>
    obtain ⟨same, after⟩ := serves.call .size (f := fun w => (w.size r, w)) (y := ((c.content.length : Int), c))
      fun _ hw => ⟨hw.size, hw⟩
    simp only [ReadStep.perform, size, hr]
    exact ⟨congrArg Answer.number same, after⟩
  | read n => exact agree_read hr serves n
  | readLine n => exact agree_readLine hr serves n
  | readCString n pos => exact agree_readCString hr serves n pos
  | readSwapped n bigEndian => exact agree_readSwapped hr serves n bigEndian
  | readByte => exact agree_readByte hr serves
  | _ => cases plain

/-- **A sequence of steps** is answered as the reference answers it. -/
theorem performAll_eq (hr : h.ref? = some r) {steps : List ReadStep} (plain : ∀ step ∈ steps, step.onStream = true)
    (serves : World.Serves r v w c) : (ReadStep.performAll h w steps).1 = c.answers v.grants steps := by
  induction steps generalizing w c with
  | nil => rfl
  | cons step rest ih =>
    obtain ⟨same, after⟩ := agree_perform hr serves (plain step (by simp))
    have later := ih (fun step' hs => plain step' (by simp [hs])) after
    simp only [ReadStep.performAll, Cursor.answers, same, later]

-- behind the end there is nothing to read, and a target below 0 moves nothing
example : Cursor.answers (· ≤ 64) ⟨[104, 105, 10, 0, 33], 0⟩
    [.readLine 9, .seek 9 .current, .read 4, .seek (-20) .current, .tell, .readCString 8 (some 1)] =
      [.data [104, 105, 10], .number 12, .nothing, .number (-1), .number 12, .data [105, 10]] := by rfl

end Handle
end ScriptStreams
