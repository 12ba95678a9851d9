import ScriptStreams.Proofs.Answers
import ScriptStreams.Proofs.Reach
/-!
# What a handle answers over its stream

`Device.answer` says what each step on a stream answers and does, by the stream alone: data comes as if it were read
into fresh memory full of zeros, and not at all where no scratch buffer is granted. A handle over a live
stream gives these answers whatever the pool lends it, and leaves every other stream in its place
(`Handle.agree_answer`).
-/
namespace ScriptStreams

/-! ## Cleared buffers -/

namespace Scratch.Buffer

/-- A buffer as it is granted: of this length, backed, and without bytes from before. -/
structure Cleared (n : Nat) (b : Buffer) : Prop where
  backed : b.Backed n
  empty : b.memory.front = []

/-- Nothing but zeros stands behind what was written. -/
theorem Cleared.bytes_write {n : Nat} {b : Buffer} (cleared : Cleared n b) (placed : Bytes) :
    (b.write placed).bytes = (Bytes.overlay (Bytes.zeros n) placed).take n := by
  obtain ⟨backed, empty⟩ := cleared
  have length := backed.length
  have roomy := backed.length_le
  have front : (b.write placed).memory.front = placed.take b.memory.size := by
    simp [write, Block.write, empty, Bytes.overlay]
  have size : (b.write placed).memory.size = b.memory.size := rfl
  have same : (b.write placed).length = n := length
  simp only [bytes, Block.bytes, front, size, same, Bytes.overlay, Bytes.zeros, List.drop_replicate, List.take_append,
    List.take_replicate, List.take_take, List.length_take]
  congr 2 <;> omega

end Scratch.Buffer

/-! ## The answers of a device -/

/-- `n` bytes of fresh memory after a read put these to its front. -/
def Bytes.filled (n : Nat) (placed : Bytes) : Bytes := (overlay (zeros n) placed).take n

/-- Data as an answer. -/
def Answer.ofBytes? : Option Bytes → Answer
  | some bs => .data bs
  | none => .nothing

def Answer.ofByte? : Option UInt8 → Answer
  | some b => .number b.toNat
  | none => .nothing

namespace Device

variable {σ : Type} (d : Device σ)

/-- A read with a scratch buffer of `n` bytes; without one there is no data, and nothing moves. -/
def granted (grants : Nat → Bool) (n : Nat) (s : σ) (f : σ → Option Bytes × σ) : Option Bytes × σ :=
  if grants n then f s else (none, s)

/-- What a read of a transfer into `n` bytes gives, unless its count means that there is nothing. -/
def transferred (n : Nat) (nothing : Int → Prop) [DecidablePred nothing] (x : Transfer × σ) : Option Bytes × σ :=
  (if nothing x.1.count then none else some ((Bytes.filled n x.1.bytes).take x.1.count.toNat), x.2)

/-- What a read of a text into `n` bytes gives. -/
def texted (n : Nat) (x : (Bool × Bytes) × σ) : Option Bytes × σ :=
  (if x.1.1 then some (Bytes.filled n x.1.2).untilNul else none, x.2)

def dataAnswer (x : Option Bytes × σ) : Answer × σ := (.ofBytes? x.1, x.2)

/-- What a step on the stream answers, and the state it leaves. -/
def answer (grants : Nat → Bool) (s : σ) : ReadStep → Answer × σ
  | .seek offset whence => (.number (d.seek offset whence s).1, (d.seek offset whence s).2)
  | .tell => (.number (d.tell s).1, (d.tell s).2)
  | .size => (.number (d.size s), s)
  | .read n => dataAnswer (granted grants n s fun s => transferred n (· ≤ 0) (d.read n s))
  | .readLine n => dataAnswer (granted grants n s fun s => texted n (d.readLine n s))
  | .readCString n pos =>
    dataAnswer (granted grants (n + Handle.scratchGuard) s fun s =>
      texted (n + Handle.scratchGuard) (d.readCString (pos.getD (-1)) n s))
  | .readSwapped n bigEndian =>
    dataAnswer (granted grants (n + Handle.scratchGuard) s fun s =>
      transferred (n + Handle.scratchGuard) (· < 0) (d.readSwapped bigEndian n s))
  | .readByte => (.ofByte? (d.nextByte s).1, (d.nextByte s).2)
  | _ => (.unknown, s)

/-! ### Devices that cannot be told apart -/

variable {d} {τ : Type} {e : Device τ} {R : σ → τ → Prop} {s : σ} {t : τ}

theorem agree_dataAnswer {x : Option Bytes × σ} {y : Option Bytes × τ} (agree : Agree R x y) :
    Agree R (dataAnswer x) (dataAnswer y) := ⟨congrArg Answer.ofBytes? agree.1, agree.2⟩

theorem agree_granted {grants : Nat → Bool} {n : Nat} {f : σ → Option Bytes × σ} {g : τ → Option Bytes × τ} (related : R s t)
    (agree : Agree R (f s) (g t)) : Agree R (granted grants n s f) (granted grants n t g) := by
  unfold granted
  split
  · exact agree
  · exact ⟨rfl, related⟩

theorem Simulates.answer (h : d.Simulates e R) (grants : Nat → Bool) (related : R s t) (step : ReadStep) :
    Agree R (d.answer grants s step) (e.answer grants t step) := by
  cases step with
  | seek offset whence =>
    obtain ⟨same, after⟩ := h.seek offset whence related
    exact ⟨congrArg Answer.number same, after⟩
  | tell =>
    obtain ⟨same, after⟩ := h.tell related
    exact ⟨congrArg Answer.number same, after⟩
  | size => exact ⟨congrArg Answer.number (h.size related), related⟩
  | read n =>
    obtain ⟨same, after⟩ := h.read n related
    refine agree_dataAnswer (agree_granted related ⟨?_, after⟩)
    simp only [transferred, same]
  | readLine n =>
    obtain ⟨same, after⟩ := h.readLine n related
    refine agree_dataAnswer (agree_granted related ⟨?_, after⟩)
    simp only [texted, same]
  | readCString n pos =>
    obtain ⟨same, after⟩ := h.readCString (pos.getD (-1)) n related
    refine agree_dataAnswer (agree_granted related ⟨?_, after⟩)
    simp only [texted, same]
  | readSwapped n bigEndian =>
    obtain ⟨same, after⟩ := h.readSwapped bigEndian n related
    refine agree_dataAnswer (agree_granted related ⟨?_, after⟩)
    simp only [transferred, same]
  | readByte =>
    obtain ⟨same, after⟩ := h.nextByte related
    exact ⟨congrArg Answer.ofByte? same, after⟩
  | copyRange | toCapsule | info | describe | describeView => exact ⟨rfl, related⟩

/-- A step passes through states that seeks and reads lead to. -/
theorem reach_answer (d : Device σ) (grants : Nat → Bool) (s : σ) (step : ReadStep) :
    d.Reach s (d.answer grants s step).2 := by
  have within : ∀ {n} {f : σ → Option Bytes × σ}, d.Reach s (f s).2 → d.Reach s (granted grants n s f).2 := by
    intro n f reached
    unfold granted
    split
    · exact reached
    · exact .refl
  cases step with
  | seek offset whence => exact Reach.refl.seek offset whence
  | tell => exact d.reach_tell s
  | read n => exact within (Reach.refl.read n)
  | readLine n => exact within (d.reach_readLine n s)
  | readCString n pos => exact within (d.reach_readCString (pos.getD (-1)) n s)
  | readSwapped n bigEndian => exact within (d.reach_readSwapped bigEndian n s)
  | readByte => exact d.reach_nextByte s
  | size | copyRange | toCapsule | info | describe | describeView => exact .refl

end Device

/-! ## Streams amid others -/

namespace World

/-- The stream of `r` has this state, the others stand as they are listed, and scratch buffers are granted as in `v`. -/
structure Amid (r : StreamRef) (v : World) (others : StreamRef → Option Entry) (w : World)
    (x : Source × Environment) : Prop where
  stands : Stands r w x
  others : ∀ r', r ≠ r' → w.table.entry? r' = others r'
  lends : v.LendsAs w

variable {α : Type} {r : StreamRef} {others : StreamRef → Option Entry} {v w : World} {x : Source × Environment}

/-- A live stream among the others as they are. -/
theorem Stands.amid (stands : Stands r w x) (pool : w.pool.Sound) : Amid r w w.table.entry? w x :=
  ⟨stands, fun _ _ => rfl, .refl pool⟩

theorem Amid.withStream (h : Amid r v others w x) (f : Source × Environment → α × Source × Environment)
    (gone : α) :
    Agree (Amid r v others) ((w.withStream r f).1.getD gone, (w.withStream r f).2) (f x) := by
  obtain ⟨same, stands⟩ := h.stands.withStream f
  refine ⟨by rw [same]; rfl, stands, fun r' ne => ?_, h.lends.withStream r f⟩
  obtain ⟨⟨o, entry⟩, -⟩ := h.stands
  unfold World.withStream
  rw [entry]
  show Table.entry? (w.table.update r _) r' = others r'
  rw [Table.entry?_update entry, if_neg ne]
  exact h.others r' ne

theorem Amid.call (h : Amid r v others w x) (p : Primitive) {f : World → α × World} {y : α × Source × Environment}
    (hf : ∀ w, Amid r v others w x → Agree (Amid r v others) (f w) y) :
    Agree (Amid r v others) (w.call p f) y := by
  obtain ⟨same, stands, others', lends⟩ := hf (w.atCall p) ⟨h.stands, h.others, h.lends.of_same rfl rfl rfl⟩
  rw [call_eq]
  exact ⟨same, stands, others', lends.of_same rfl rfl rfl⟩

theorem Amid.withScratch (h : Amid r v others w x) {n : Nat}
    {f : Scratch.Buffer → World → Option Bytes × Scratch.Buffer × World}
    {g : Source × Environment → Option Bytes × Source × Environment}
    (hf : ∀ b v w, b.Cleared n → Amid r v others w x →
      (f b w).1 = (g x).1 ∧ (f b w).2.1.Backed n ∧ Amid r v others (f b w).2.2 (g x).2) :
    Agree (Amid r v others) (Handle.withScratch n w f) (Device.granted v.grants n x g) := by
  obtain ⟨stands, apart, lends⟩ := h
  unfold Handle.withScratch Device.granted
  rw [← lends.grants]
  by_cases granted : w.grants n = true
  · obtain ⟨b, p, acquired⟩ := Scratch.Pool.acquire_of_grants granted
    obtain ⟨lent, empty, meanwhile⟩ := lends.acquire acquired
    obtain ⟨same, backed, after⟩ := hf b _ { w with pool := p } ⟨lent, empty⟩ ⟨stands, apart, meanwhile⟩
    rw [acquired, if_pos granted]
    exact ⟨same, after.stands, after.others, lends.release acquired after.lends backed⟩
  · obtain ⟨e, acquired⟩ := Scratch.Pool.acquire_of_not_grants granted
    rw [acquired, if_neg granted]
    exact ⟨rfl, stands, apart, lends.of_same rfl rfl rfl⟩

/-- Nothing is read for a request too long for the size type. -/
theorem Amid.refused (h : Amid r v others w x) {n : Nat} (huge : Handle.sizeLimit ≤ n + Handle.scratchGuard)
    (g : Source × Environment → Option Bytes × Source × Environment) :
    Agree (Amid r v others) (none, w) (Device.granted v.grants (n + Handle.scratchGuard) x g) := by
  rw [Device.granted, if_neg (Handle.not_grants_of_huge huge v)]
  exact ⟨rfl, h⟩

end World

namespace Handle

variable {h : Handle} {r : StreamRef} {others : StreamRef → Option Entry} {v w : World} {x : Source × Environment}

theorem agree_ofData {data : Option Bytes × World} {y : Option Bytes × Source × Environment}
    (agree : Agree (World.Amid r v others) data y) :
    Agree (World.Amid r v others) (Answer.ofData (.ok data.1, data.2)) (Device.dataAnswer y) := by
  obtain ⟨bs, w⟩ := data
  obtain ⟨rfl, after⟩ : bs = y.1 ∧ _ := agree
  cases hy : y.1 <;> exact ⟨by simp [Answer.ofData, Device.dataAnswer, Answer.ofBytes?, hy], after⟩

theorem agree_ofByte {b : Option UInt8 × World} {y : Option UInt8 × Source × Environment}
    (agree : Agree (World.Amid r v others) b y) :
    Agree (World.Amid r v others) (Answer.ofByte (.ok b.1, b.2)) (.ofByte? y.1, y.2) := by
  obtain ⟨byte, w⟩ := b
  obtain ⟨rfl, after⟩ : byte = y.1 ∧ _ := agree
  cases hy : y.1 <;> exact ⟨by simp [Answer.ofByte, Answer.ofByte?], after⟩

/-- A read of a transfer through a cleared buffer. -/
theorem agree_transferred {n : Nat} {b : Scratch.Buffer} (cleared : b.Cleared n) (nothing : Int → Prop)
    [DecidablePred nothing] {t : Transfer × World} {y : Transfer × Source × Environment}
    (agree : Agree (World.Amid r v others) t y) :
    (if nothing t.1.count then none else some ((b.write t.1.bytes).take t.1.count.toNat)) =
      (Device.transferred n nothing y).1 := by
  rw [Device.transferred, agree.1, Scratch.Buffer.take_eq, cleared.bytes_write]
  rfl

theorem agree_texted {n : Nat} {b : Scratch.Buffer} (cleared : b.Cleared n) {t : (Bool × Bytes) × World}
    {y : (Bool × Bytes) × Source × Environment} (agree : Agree (World.Amid r v others) t y) :
    (if t.1.1 then some (b.write t.1.2).untilNul else none) = (Device.texted n y).1 := by
  rw [Device.texted, agree.1, Scratch.Buffer.untilNul_eq, cleared.bytes_write]
  rfl

theorem amid_read (hr : h.ref? = some r) (amid : World.Amid r v others w x) (n : Nat) :
    ∃ data w', h.read n w = (.ok data, w') ∧ Agree (World.Amid r v others) (data, w')
      (Device.granted v.grants n x fun x => Device.transferred n (· ≤ 0) (Source.read n x)) := by
  simp only [read, hr]
  refine ⟨_, _, rfl, amid.withScratch fun b v u cleared hv => ?_⟩
  have agree := hv.call .readBytes fun _ hw => hw.withStream (Source.read n) ⟨-1, []⟩
  exact ⟨agree_transferred cleared (· ≤ 0) agree, cleared.backed.write _, agree.2⟩

theorem amid_readByte (hr : h.ref? = some r) (amid : World.Amid r v others w x) :
    ∃ byte w', h.readByte w = (.ok byte, w') ∧
      Agree (World.Amid r v others) (byte, w') (Source.device.nextByte x) := by
  simp only [readByte, hr]
  exact ⟨_, _, rfl, amid.call .readByte fun _ hw => hw.withStream Source.device.nextByte none⟩

/-- **A step on the stream of a handle** is answered by the stream alone, and every other stream stays in place. -/
theorem agree_answer (hr : h.ref? = some r) (amid : World.Amid r v others w x) {step : ReadStep}
    (plain : step.onStream = true) :
    Agree (World.Amid r v others) (step.perform h w) (Source.device.answer v.grants x step) := by
  cases step with
  | seek offset whence =>
    obtain ⟨same, after⟩ := amid.call .seek fun _ hw => hw.withStream (Source.seek offset whence) (-1)
    simp only [ReadStep.perform, seek, hr]
    exact ⟨congrArg Answer.number same, after⟩
  | tell =>
    obtain ⟨same, after⟩ := amid.call .tell fun _ hw => hw.withStream Source.device.tell (-1)
    simp only [ReadStep.perform, tell, hr]
    exact ⟨congrArg Answer.number same, after⟩
  | size =>
    have sized : ∀ u, World.Amid r v others u x →
        Agree (World.Amid r v others) (u.size r, u) (Source.size x, x) := by
      intro u hu
      obtain ⟨⟨o, entry⟩, env⟩ := hu.stands
      refine ⟨?_, hu⟩
      simp only [World.size, entry, env]
    obtain ⟨same, after⟩ := amid.call .size sized
    simp only [ReadStep.perform, size, hr]
    exact ⟨congrArg Answer.number same, after⟩
  | read n =>
    obtain ⟨data, w', called, agree⟩ := amid_read hr amid n
    simp only [ReadStep.perform, called]
    exact agree_ofData agree
  | readLine n =>
    simp only [ReadStep.perform, readLine, hr]
    refine agree_ofData (amid.withScratch fun b v u cleared hv => ?_)
    have agree := hv.call .readLine fun _ hw => hw.withStream (Source.device.readLine n) (false, [])
    exact ⟨agree_texted cleared agree, cleared.backed.write _, agree.2⟩
  | readCString n pos =>
    simp only [ReadStep.perform, readCString, hr]
    split
    · next huge => exact agree_ofData (amid.refused huge _)
    · refine agree_ofData (amid.withScratch fun b v u cleared hv => ?_)
      have agree := hv.call .readCString fun _ hw =>
        hw.withStream (Source.device.readCString (pos.getD (-1)) n) (false, if n = 0 then [] else [0])
      exact ⟨agree_texted cleared agree, cleared.backed.write _, agree.2⟩
  | readSwapped n bigEndian =>
    simp only [ReadStep.perform, readSwapped, hr]
    split
    · next huge => exact agree_ofData (amid.refused huge _)
    · refine agree_ofData (amid.withScratch fun b v u cleared hv => ?_)
      have agree := hv.call .readSwapped fun _ hw => hw.withStream (Source.device.readSwapped bigEndian n) ⟨-1, []⟩
      exact ⟨agree_transferred cleared (· < 0) agree, cleared.backed.write _, agree.2⟩
  | readByte =>
    obtain ⟨byte, w', called, agree⟩ := amid_readByte hr amid
    simp only [ReadStep.perform, called]
    exact agree_ofByte agree
  | copyRange | toCapsule | info | describe | describeView => cases plain

end Handle
end ScriptStreams
