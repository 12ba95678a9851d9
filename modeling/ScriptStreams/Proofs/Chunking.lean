import ScriptStreams.Proofs.ExactLoad
import ScriptStreams.Proofs.ShortReads
import ScriptStreams.Session.TableStep
/-!
# Reads cut into chunks

A stream may give fewer bytes than it was asked for, and a plain read shows that. What is put together from reads does
not: single bytes, lines, strings and loads ask again, or never ask for more than one byte. So streams over one medium
(`Medium`: bytes, a point from which on reads fail, a size as reported and a way of seeking) cannot be told apart by them,
however each of them cuts up what it hands out (`Device.HandsOut.resembles`), and a sequence of such steps gives one list
of answers, one address space and one position (`Device.Fills.chunks_unseen`).
-/
namespace ScriptStreams

variable {σ τ : Type}

/-! ## Media -/

/-- What a stream is over. A seek is from a position to an answer and a position. -/
structure Medium where
  content : Bytes
  /-- Reads fail from here on. -/
  failAt : Option Nat := none
  size : Int
  seek : Nat → Int → Whence → Int × Nat

namespace Medium

variable {m : Medium} {pos n : Nat}

def Fails (m : Medium) (pos : Nat) : Prop := ∃ first ∈ m.failAt, first ≤ pos

/-- The bytes from `pos` on that come before the failure. -/
def rest (m : Medium) (pos : Nat) : Bytes := (m.content.take (m.failAt.getD m.content.length)).drop pos

/-- A read of `n` bytes at `pos` gives this and ends there: a negative code where reads fail, nothing behind the last byte,
and else at least one byte of those that were asked for and are there. -/
inductive Reads (m : Medium) (pos n : Nat) : Transfer → Nat → Prop
  | failed {code : Int} {bs : Bytes} (fails : m.Fails pos) (negative : code < 0) : Reads m pos n ⟨code, bs⟩ pos
  | ended {bs : Bytes} (works : ¬ m.Fails pos) (nothing : m.rest pos = []) : Reads m pos n ⟨0, bs⟩ pos
  | delivered {k : Nat} (some : 0 < k) (asked : k ≤ n) (there : k ≤ (m.rest pos).length) :
    Reads m pos n ⟨k, (m.rest pos).take k⟩ (pos + k)

theorem rest_of_fails (fails : m.Fails pos) : m.rest pos = [] := by
  obtain ⟨first, found, behind⟩ := fails
  rw [Option.mem_def] at found
  rw [rest, found, List.drop_eq_nil_iff, List.length_take, Option.getD_some]
  omega

theorem rest_add (m : Medium) (pos k : Nat) : m.rest (pos + k) = (m.rest pos).drop k := by
  rw [rest, rest, List.drop_drop]

/-- A read either comes to nothing and stays, or takes bytes from the front. -/
theorem Reads.cases {t : Transfer} {after : Nat} (reads : m.Reads pos n t after) :
    (t.count ≤ 0 ∧ m.rest pos = [] ∧ after = pos) ∨
      ∃ k, 0 < k ∧ k ≤ n ∧ k ≤ (m.rest pos).length ∧ t = ⟨k, (m.rest pos).take k⟩ ∧ after = pos + k := by
  cases reads with
  | failed fails negative => exact .inl ⟨Int.le_of_lt negative, rest_of_fails fails, rfl⟩
  | ended works nothing => exact .inl ⟨Int.le_refl 0, nothing, rfl⟩
  | @delivered k some asked there => exact .inr ⟨k, some, asked, there, rfl, rfl⟩

end Medium

/-! ## Devices over a medium -/

/-- The device hands out the medium in pieces of its own choice, in states that are valid and stand at a position. -/
structure Device.HandsOut (d : Device σ) (m : Medium) (valid : σ → Prop) (pos : σ → Nat) : Prop where
  seek : ∀ offset whence {s : σ}, valid s → valid (d.seek offset whence s).2 ∧
    ((d.seek offset whence s).1, pos (d.seek offset whence s).2) = m.seek (pos s) offset whence
  size : ∀ {s : σ}, valid s → d.size s = m.size
  read : ∀ {n : Nat} {s : σ}, 0 < n → valid s →
    valid (d.read n s).2 ∧ m.Reads (pos s) n (d.read n s).1 (pos (d.read n s).2)

/-- The device fills every read as far as possible. -/
structure Device.Fills (d : Device σ) (m : Medium) (valid : σ → Prop) (pos : σ → Nat) : Prop
    extends Device.HandsOut d m valid pos where
  full : ∀ {n : Nat} {s : σ}, 0 < n → valid s → ¬ m.Fails (pos s) →
    (d.read n s).1.count = min n (m.rest (pos s)).length

namespace Device.HandsOut

variable {d : Device σ} {e : Device τ} {m : Medium} {valid : σ → Prop} {pos : σ → Nat} {valid' : τ → Prop}
  {pos' : τ → Nat} {s : σ}

/-- A single byte is the next one, if there is one. -/
theorem nextByte (h : d.HandsOut m valid pos) (hs : valid s) :
    (d.nextByte s).1 = (m.rest (pos s)).head? ∧ valid (d.nextByte s).2 ∧
      pos (d.nextByte s).2 = pos s + min 1 (m.rest (pos s)).length := by
  obtain ⟨stays, reads⟩ := h.read Nat.one_pos hs
  rcases reads.cases with ⟨count, nothing, after⟩ | ⟨k, some, asked, there, taken, after⟩
  · have no_byte : (d.read 1 s).1.count ≠ 1 := by omega
    refine ⟨?_, stays, ?_⟩
    · simp only [Device.nextByte, if_neg no_byte, nothing, List.head?_nil]
    · rw [nothing]
      exact after
  · obtain rfl : k = 1 := by omega
    obtain ⟨b, bs, rest⟩ := List.exists_cons_of_length_pos there
    refine ⟨?_, stays, ?_⟩
    · simp [Device.nextByte, taken, rest]
    · rw [Nat.min_eq_left there]
      exact after

/-- A full read gives what there is, in however many pieces it comes. -/
theorem readFull (h : d.HandsOut m valid pos) {fuel want : Nat} (enough : want ≤ fuel) (hs : valid s) :
    (d.readFull fuel want s).1 = (m.rest (pos s)).take want ∧ valid (d.readFull fuel want s).2 ∧
      pos (d.readFull fuel want s).2 = pos s + min want (m.rest (pos s)).length := by
  induction fuel generalizing want s with
  | zero =>
    obtain rfl : want = 0 := Nat.le_zero.1 enough
    exact ⟨rfl, hs, by rw [Nat.zero_min]; rfl⟩
  | succ fuel ih =>
    rw [Device.readFull_succ]
    by_cases none_wanted : want = 0
    · rw [if_pos none_wanted, none_wanted, Nat.zero_min]
      exact ⟨rfl, hs, rfl⟩
    · rw [if_neg none_wanted]
      obtain ⟨stays, reads⟩ := h.read (Nat.pos_of_ne_zero none_wanted) hs
      rcases reads.cases with ⟨count, nothing, after⟩ | ⟨k, some, asked, there, taken, after⟩
      · rw [if_pos count, nothing, after, List.length_nil, Nat.min_zero, List.take_nil]
        exact ⟨rfl, stays, rfl⟩
      · -- what the first piece leaves is behind it, and it is less
        have piece : ((m.rest (pos s)).take k).length = k := by rw [List.length_take, Nat.min_eq_left there]
        have credited : (d.read want s).1.credited want = (m.rest (pos s)).take k := by
          rw [taken]
          exact Transfer.credited_of_counted (by rw [piece]) (by rwa [piece])
        have more : ¬ (d.read want s).1.count ≤ 0 := by
          rw [taken]
          show ¬ (k : Int) ≤ 0
          omega
        have less : want - k ≤ fuel := by omega
        obtain ⟨later, valid_later, pos_later⟩ := ih less stays
        rw [after, Medium.rest_add] at later pos_later
        rw [if_neg more]
        dsimp only
        rw [credited, piece, later, pos_later, List.length_drop]
        refine ⟨?_, valid_later, by omega⟩
        rw [← List.take_add, Nat.add_sub_cancel' asked]

/-- The states of two devices that are both valid and stand at one position. -/
def Level (valid : σ → Prop) (pos : σ → Nat) (valid' : τ → Prop) (pos' : τ → Nat) (s : σ) (t : τ) : Prop :=
  valid s ∧ valid' t ∧ pos s = pos' t

/-- **Pieces are not to be seen** in what is put together. -/
theorem resembles (h : d.HandsOut m valid pos) (h' : e.HandsOut m valid' pos') :
    d.Resembles e (Level valid pos valid' pos') where
  seek offset whence s t := by
    rintro ⟨hs, ht, same⟩
    obtain ⟨stays, moved⟩ := h.seek offset whence hs
    obtain ⟨stays', moved'⟩ := h'.seek offset whence ht
    obtain ⟨answer, position⟩ := Prod.mk.inj (moved.trans (same ▸ moved'.symm))
    exact ⟨answer, stays, stays', position⟩
  size := fun ⟨hs, ht, _⟩ => (h.size hs).trans (h'.size ht).symm
  nextByte {s t} := by
    rintro ⟨hs, ht, same⟩
    obtain ⟨byte, stays, moved⟩ := h.nextByte hs
    obtain ⟨byte', stays', moved'⟩ := h'.nextByte ht
    rw [← same] at byte' moved'
    exact ⟨byte.trans byte'.symm, stays, stays', moved.trans moved'.symm⟩
  readFull want {s t} := by
    rintro ⟨hs, ht, same⟩
    obtain ⟨bytes, stays, moved⟩ := h.readFull (Nat.le_refl want) hs
    obtain ⟨bytes', stays', moved'⟩ := h'.readFull (Nat.le_refl want) ht
    rw [← same] at bytes' moved'
    exact ⟨bytes.trans bytes'.symm, stays, stays', moved.trans moved'.symm⟩

end Device.HandsOut

/-! ## Supplied sources -/

namespace Supplied

variable {s : Supplied} {n : Nat}

/-- What a supplied source is over. How long its chunks are is no part of it. -/
def medium (s : Supplied) : Medium where
  content := s.data.toList
  failAt := s.failAt.map Int.toNat
  size := s.reportedSize
  seek pos offset whence :=
    match if s.seekable then landing pos s.data.size offset whence else none with
    | some target => (target, target)
    | none => (-1, pos)

theorem fails_iff (s : Supplied) : s.medium.Fails s.pos ↔ s.hasFailed = true := by
  unfold Medium.Fails medium hasFailed
  cases s.failAt with
  | none => simp
  | some first => simp

theorem rest_eq (s : Supplied) : s.medium.rest s.pos = (s.data.toList.drop s.pos).take (s.stop - s.pos) := by
  unfold Medium.rest medium stop
  -- a failure behind the last byte cuts nothing off, so the lengths need not be the same
  rw [List.drop_take, List.take_eq_take_iff]
  cases s.failAt with
  | none => rfl
  | some first =>
    simp only [Option.map_some, Option.getD_some, List.length_drop, Array.length_toList]
    omega

/-- A read that does not fail gives of what is there a chunk at most. -/
theorem read_eq (works : ¬ s.hasFailed = true) :
    let k := min (if s.chunk = 0 then n else min n s.chunk) (s.medium.rest s.pos).length
    s.read n = (⟨k, (s.medium.rest s.pos).take k⟩, { s with pos := s.pos + k }) := by
  intro k
  have count : k = min (if s.chunk = 0 then n else min n s.chunk) (s.stop - s.pos) := by
    simp only [k, rest_eq, List.length_take, List.length_drop, Array.length_toList, stop]
    split <;> split <;> omega
  have bytes : Bytes.slice s.data s.pos k = (s.medium.rest s.pos).take k := by
    rw [Bytes.slice_eq, rest_eq, List.take_take, Nat.min_eq_left (by omega)]
  have length : ((s.medium.rest s.pos).take k).length = k := by
    rw [List.length_take]
    exact Nat.min_eq_left (Nat.min_le_right _ _)
  simp only [read, if_neg works]
  rw [← count, bytes, length]

end Supplied

namespace Source

variable {m : Medium} {chunks : Nat → Prop} {x : Source × Environment}

/-- A supplied source over the medium, with chunks of such a length and a code of failure that is one. -/
def Supplies (m : Medium) (chunks : Nat → Prop) : Source × Environment → Prop
  | (.supplied s, _) => s.medium = m ∧ s.failCode < 0 ∧ chunks s.chunk
  | _ => False

theorem Supplies.cases (h : Supplies m chunks x) :
    ∃ s env, x = (.supplied s, env) ∧ s.medium = m ∧ s.failCode < 0 ∧ chunks s.chunk := by
  obtain ⟨source, env⟩ := x
  cases source with
  | supplied s => exact ⟨s, env, rfl, h⟩
  | _ => exact h.elim

/-- **A supplied source** hands out what it is over, in chunks of whatever length. -/
theorem handsOut_supplied (m : Medium) (chunks : Nat → Prop) : device.HandsOut m (Supplies m chunks) standing where
  seek offset whence x h := by
    obtain ⟨s, env, rfl, rfl, valid⟩ := h.cases
    simp only [device, Source.seek, Supplied.seek, standing, Supplied.medium]
    cases (if s.seekable then landing s.pos s.data.size offset whence else none) <;> exact ⟨⟨rfl, valid⟩, rfl⟩
  size {x} h := by
    obtain ⟨s, env, rfl, rfl, -⟩ := h.cases
    rfl
  read {n x} asked h := by
    obtain ⟨s, env, rfl, rfl, valid⟩ := h.cases
    by_cases works : s.hasFailed = true
    · have read : s.read n = (⟨s.failCode, []⟩, s) := by rw [Supplied.read, if_pos works]
      simp only [device, Source.read, read]
      exact ⟨⟨rfl, valid⟩, .failed (s.fails_iff.2 works) valid.1⟩
    · have read := s.read_eq works (n := n)
      simp only [device, Source.read, read]
      refine ⟨⟨rfl, valid⟩, ?_⟩
      by_cases nothing : s.medium.rest s.pos = []
      · -- at the end a chunk of nothing is the end of the source, not a failure
        rw [nothing, List.length_nil, Nat.min_zero]
        exact .ended (fun fails => works (s.fails_iff.1 fails)) nothing
      · have there := List.length_pos_of_ne_nil nothing
        refine .delivered ?_ ?_ (Nat.min_le_right _ _) <;> split <;> omega

theorem fills_supplied (m : Medium) : device.Fills m (Supplies m (· = 0)) standing where
  toHandsOut := handsOut_supplied m _
  full {n x} _ h works := by
    obtain ⟨s, env, rfl, rfl, -, whole⟩ := h.cases
    have read := s.read_eq (fun failed => works (s.fails_iff.2 failed)) (n := n)
    rw [if_pos whole] at read
    simp only [device, Source.read, read, standing]

/-- Nine bytes in chunks of such a length; from the eighth on reads fail. -/
def nineBytes (chunk : Nat) : Source × Environment :=
  (.supplied { data := #[97, 98, 10, 99, 100, 0, 101, 102, 103], chunk := chunk, failAt := some 7, reportedSize := 20 }, {})

end Source

/-! ## Steps -/

/-- A step that puts together what it reads. -/
inductive CompositeStep where
  | byte
  | line (buffer : Bytes)
  /-- A string, from a position on unless that is -1. -/
  | string (pos : Int) (buffer : Bytes)
  | load (filePos : Int) (start stop : Nat) (patchable : Bool)

namespace CompositeStep

/-- What the step answers where memory is reserved by `a`, and the address space and the device after it. -/
def perform (a : Allocator) (d : Device σ) (space : AddressSpace) (s : σ) : CompositeStep → Answer × AddressSpace × σ
  | byte => (.ofByte? (d.nextByte s).1, space, (d.nextByte s).2)
  | line buffer =>
    let ((ok, placed), s) := d.readLine buffer.length s
    (.found ok (Bytes.overlay buffer placed), space, s)
  | string pos buffer =>
    let ((ok, placed), s) := d.readCString pos buffer.length s
    (.found ok (Bytes.overlay buffer placed), space, s)
  | load filePos start stop patchable =>
    let (outcome, space, s) := space.load a d filePos start stop patchable s
    (.loaded outcome.status space.spans, space, s)

def performAll (a : Allocator) (d : Device σ) (space : AddressSpace) (s : σ) :
    List CompositeStep → List Answer × AddressSpace × σ
  | [] => ([], space, s)
  | step :: rest =>
    let (answer, space, s) := step.perform a d space s
    let (answers, space, s) := performAll a d space s rest
    (answer :: answers, space, s)

end CompositeStep

namespace Device

variable {d : Device σ} {e : Device τ} {R : σ → τ → Prop} {s : σ} {t : τ}

theorem Resembles.perform (h : d.Resembles e R) (a : Allocator) (space : AddressSpace) (hr : R s t) (step : CompositeStep) :
    (step.perform a d space s).1 = (step.perform a e space t).1 ∧
      Agree R (step.perform a d space s).2 (step.perform a e space t).2 := by
  cases step with
  | byte =>
    obtain ⟨same, after⟩ := h.nextByte hr
    exact ⟨congrArg Answer.ofByte? same, rfl, after⟩
  | line buffer =>
    obtain ⟨same, after⟩ := h.readLine buffer.length hr
    exact ⟨by simp only [CompositeStep.perform, same], rfl, after⟩
  | string pos buffer =>
    obtain ⟨same, after⟩ := h.readCString pos buffer.length hr
    exact ⟨by simp only [CompositeStep.perform, same], rfl, after⟩
  | load filePos start stop patchable =>
    obtain ⟨outcome, ranges, after⟩ := h.load a space filePos start stop patchable hr
    exact ⟨by simp only [CompositeStep.perform, outcome, ranges], ranges, after⟩

theorem Resembles.performAll (h : d.Resembles e R) (a : Allocator) (space : AddressSpace) (hr : R s t)
    (steps : List CompositeStep) :
    (CompositeStep.performAll a d space s steps).1 = (CompositeStep.performAll a e space t steps).1 ∧
      Agree R (CompositeStep.performAll a d space s steps).2 (CompositeStep.performAll a e space t steps).2 := by
  induction steps generalizing space s t with
  | nil => exact ⟨rfl, rfl, hr⟩
  | cons step rest ih =>
    -- the later steps start from the ranges and the states that this one leaves
    obtain ⟨same, ranges, related⟩ := h.perform a space hr step
    obtain ⟨answers, after⟩ := ih (step.perform a e space t).2.1 related
    unfold CompositeStep.performAll
    dsimp only
    rw [same, ranges]
    exact ⟨by rw [answers], after⟩

/-- **Chunks are not seen in composite reads.** Take two streams over one medium: the same bytes, the same way of seeking,
the same reported size, and the same point, if any, from which on reads give a negative code. One fills each read as far
as possible, the other gives any count between one and what is asked for and there. If they stand at one position then
any sequence of single bytes, lines, strings, from a position or from where the stream stands, and loads of an address
space gives the same answers over both, the same ranges with the same bytes, and leaves both at one position. -/
theorem Fills.chunks_unseen {m : Medium} {valid : σ → Prop} {pos : σ → Nat} {valid' : τ → Prop} {pos' : τ → Nat}
    (fills : d.Fills m valid pos) (handsOut : e.HandsOut m valid' pos') (hs : valid s) (ht : valid' t)
    (level : pos s = pos' t) (a : Allocator) (space : AddressSpace) (steps : List CompositeStep) :
    let x := CompositeStep.performAll a d space s steps
    let y := CompositeStep.performAll a e space t steps
    x.1 = y.1 ∧ x.2.1 = y.2.1 ∧ pos x.2.2 = pos' y.2.2 := by
  obtain ⟨answers, ranges, -, -, after⟩ :=
    (fills.toHandsOut.resembles handsOut).performAll a space ⟨hs, ht, level⟩ steps
  exact ⟨answers, ranges, after⟩

/-- A plain read shows the chunks. A line, strings, single bytes and two loads, of which one gets to the failure, do
not. -/
theorem chunks_unseen_nineBytes :
    let steps : List CompositeStep := [.line (Bytes.zeros 8), .string (-1) (Bytes.zeros 8), .byte, .byte,
      .load 1 64 69 true, .load 4 80 84 false, .string 3 (Bytes.zeros 2)]
    let x := CompositeStep.performAll .ample Source.device [] (Source.nineBytes 0) steps
    let y := CompositeStep.performAll .ample Source.device [] (Source.nineBytes 3) steps
    ((Source.read 5 (Source.nineBytes 0)).1.count = 5 ∧ (Source.read 5 (Source.nineBytes 3)).1.count = 3) ∧
      x.1 = y.1 ∧ x.2.1 = y.2.1 ∧ Source.standing x.2.2 = Source.standing y.2.2 := by
  intro steps
  have failing : (-1 : Int) < 0 := by decide
  have medium : ∀ chunk, Source.Supplies _ (· = chunk) (Source.nineBytes chunk) := fun _ => ⟨rfl, failing, rfl⟩
  refine ⟨by decide, ?_⟩
  exact Fills.chunks_unseen (Source.fills_supplied _) (Source.handsOut_supplied _ _) (medium 0) (medium 3) rfl .ample [] steps

end Device

/-! ## Streams of a world -/

namespace World

theorem withStream_spares {α : Type} (w : World) (r : StreamRef) (f : Source × Environment → α × Source × Environment) :
    (w.withStream r f).2.space = w.space ∧ (w.withStream r f).2.allocator = w.allocator := by
  unfold withStream
  split <;> exact ⟨rfl, rfl⟩

/-- A load takes memory from the allocator as it is. -/
theorem allocator_loadSpace (w : World) (r : StreamRef) (filePos : Int) (start stop : Nat) (patchable : Bool) :
    (w.loadSpace r filePos start stop patchable).2.allocator = w.allocator := by
  have passed : (w.space.load w.allocator (device r) filePos start stop patchable w).2.2.allocator = w.allocator :=
    (AddressSpace.reach_load w.allocator (device r) w.space filePos start stop patchable w).preserves
      (P := fun v => v.allocator = w.allocator)
      (fun offset whence v same => (v.withStream_spares r (Source.seek offset whence)).2.trans same)
      (fun n v same => (v.withStream_spares r (Source.read n)).2.trans same) rfl
  unfold loadSpace
  split
  next outcome space v loaded =>
    rw [loaded] at passed
    cases outcome <;> exact passed

end World

namespace CompositeStep

/-- The step on the stream of `r`, by the table and the loader. -/
def inWorld (r : StreamRef) (w : World) : CompositeStep → Answer × World
  | byte => (TableStep.readByte r).perform [] w
  | line buffer => (TableStep.readLine r buffer).perform [] w
  | string pos buffer => (TableStep.readCString r pos buffer).perform [] w
  | load filePos start stop patchable => (SpaceStep.load r filePos start stop patchable).perform w

def allInWorld (r : StreamRef) (w : World) : List CompositeStep → List Answer × World
  | [] => ([], w)
  | step :: rest =>
    let (answer, w) := step.inWorld r w
    let (answers, w) := allInWorld r w rest
    (answer :: answers, w)

variable {r : StreamRef} {w : World} {x : Source × Environment}

/-- In a world a step is a step on the source. -/
theorem inWorld_eq (stands : w.Stands r x) (step : CompositeStep) :
    let y := step.perform w.allocator Source.device w.space x
    (step.inWorld r w).1 = y.1 ∧ (step.inWorld r w).2.space = y.2.1 ∧
      (step.inWorld r w).2.allocator = w.allocator ∧ (step.inWorld r w).2.Stands r y.2.2 := by
  cases step with
  | byte =>
    obtain ⟨same, after⟩ := stands.withStream Source.device.nextByte
    have read : w.readByte r = ((Source.device.nextByte x).1, (w.withStream r Source.device.nextByte).2) := by
      show ((w.withStream r Source.device.nextByte).1.getD none, _) = _
      rw [same]
      rfl
    simp only [inWorld, TableStep.perform, perform, read]
    obtain ⟨space, memory⟩ := w.withStream_spares r Source.device.nextByte
    cases (Source.device.nextByte x).1 <;> exact ⟨rfl, space, memory, after⟩
  | line buffer =>
    obtain ⟨same, after⟩ := stands.withStream (Source.device.readLine buffer.length)
    obtain ⟨space, memory⟩ := w.withStream_spares r (Source.device.readLine buffer.length)
    simp only [inWorld, TableStep.perform, World.readLineInto, World.readLine, perform, same]
    exact ⟨rfl, space, memory, after⟩
  | string pos buffer =>
    obtain ⟨same, after⟩ := stands.withStream (Source.device.readCString pos buffer.length)
    obtain ⟨space, memory⟩ := w.withStream_spares r (Source.device.readCString pos buffer.length)
    simp only [inWorld, TableStep.perform, World.readCStringInto, World.readCString, perform, same]
    exact ⟨rfl, space, memory, after⟩
  | load filePos start stop patchable =>
    obtain ⟨status, ranges, after⟩ := stands.loadSpace filePos start stop patchable
    simp only [inWorld, SpaceStep.perform, perform, status, ranges]
    exact ⟨trivial, trivial, w.allocator_loadSpace r filePos start stop patchable, after⟩

theorem allInWorld_eq (stands : w.Stands r x) (steps : List CompositeStep) :
    let y := performAll w.allocator Source.device w.space x steps
    (allInWorld r w steps).1 = y.1 ∧ (allInWorld r w steps).2.space = y.2.1 ∧
      (allInWorld r w steps).2.Stands r y.2.2 := by
  induction steps generalizing w x with
  | nil => exact ⟨rfl, rfl, stands⟩
  | cons step rest ih =>
    obtain ⟨same, ranges, memory, after⟩ := inWorld_eq stands step
    obtain ⟨answers, space, stays⟩ := ih after
    rw [ranges, memory] at answers space stays
    simp only [allInWorld, performAll, same, answers, space]
    exact ⟨trivial, trivial, stays⟩

variable {m : Medium} {valid valid' : Source × Environment → Prop} {pos pos' : Source × Environment → Nat}

/-- **Streams over one medium** in worlds with the same ranges and the same memory to reserve: steps by the table and the
loader give the same answers and the same ranges, and in the end the streams tell one position. -/
theorem allInWorld_alike (handsOut : Source.device.HandsOut m valid pos)
    (handsOut' : Source.device.HandsOut m valid' pos') {v : World} {r' : StreamRef} {y : Source × Environment}
    (stands : w.Stands r x) (stands' : v.Stands r' y) (hx : valid x) (hy : valid' y) (level : pos x = pos' y)
    (space : w.space = v.space) (memory : w.allocator = v.allocator) (steps : List CompositeStep) :
    let a := allInWorld r w steps
    let b := allInWorld r' v steps
    a.1 = b.1 ∧ a.2.space = b.2.space ∧ a.2.position r = b.2.position r' := by
  intro a b
  have resembles := handsOut.resembles handsOut'
  obtain ⟨answers, ranges, after⟩ := allInWorld_eq stands steps
  obtain ⟨answers', ranges', after'⟩ := allInWorld_eq stands' steps
  obtain ⟨same, kept, still⟩ := resembles.performAll w.allocator w.space ⟨hx, hy, level⟩ steps
  rw [← space, ← memory] at answers' ranges' after'
  have told : a.2.position r = _ := ((World.simulates_source r).tell after).1
  have told' : b.2.position r' = _ := ((World.simulates_source r').tell after').1
  exact ⟨answers.trans (same.trans answers'.symm), ranges.trans (kept.trans ranges'.symm),
    told.trans ((resembles.seek 0 .current still).1.trans told'.symm)⟩

end CompositeStep
end ScriptStreams
