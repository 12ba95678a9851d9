import ScriptStreams.Proofs.Answers
import ScriptStreams.Proofs.TableRuns
/-!
# References are handed out once

Every registration hands out a reference that none before it did (`Table.Issues`), so a released stream stays gone
whatever is registered later. What still refers to it, a borrowing handle or a copy of one, gets -1 for every position
and size and no data, and disturbs no other stream (`Handle.Silent`): `Session.no_resurrection` says both of every
run.
-/
namespace ScriptStreams

/-! ## What was handed out -/

namespace Table

/-- A run from the empty table, with the references that its registrations handed out, the latest first. -/
inductive Issues : List StreamRef → Table → Prop where
  | empty : Issues [] {}
  | register {issued : List StreamRef} {t : Table} (o : StreamOrigin) (source : Source) :
      Issues issued t → Issues ((t.register o source).1 :: issued) (t.register o source).2
  | update {issued : List StreamRef} {t : Table} (r : StreamRef) (source : Source) :
      Issues issued t → Issues issued (t.update r source)
  | release {issued : List StreamRef} {t : Table} (o : StreamOrigin) (r : StreamRef) :
      Issues issued t → Issues issued (t.release o r).2

namespace Issues

variable {issued : List StreamRef} {t t' : Table} {r : StreamRef}

theorem length (h : Issues issued t) : t.next.number = issued.length + 1 := by
  induction h with
  | empty => rfl
  | register o source _ ih => exact congrArg Nat.succ ih
  | update r source _ ih => rw [next_update, ih]
  | release o r _ ih => rw [next_release, ih]

/-- One reference for every stream that was opened. -/
theorem opened (h : Issues issued t) : issued.length = t.stats.opened := by
  induction h with
  | empty => rfl
  | register o source _ ih => exact congrArg Nat.succ ih
  | @update issued t r source _ ih =>
    rw [ih]
    unfold Table.update
    split <;> rfl
  | @release issued t o r _ ih =>
    rw [ih]
    rcases release_cases t o r with ⟨-, released⟩ | ⟨-, -, refused⟩
    · rw [released]
      cases o <;> rfl
    · rw [refused]

/-- The references that were handed out are those below the next one. -/
theorem mem_iff (h : Issues issued t) : r ∈ issued ↔ r.number < t.next.number := by
  induction h with
  | empty =>
    -- references are nonzero and the first is 1
    have none_below : ¬ r.number < StreamRef.first.number := Nat.not_lt.2 r.number_pos
    simpa using none_below
  | @register issued t o source _ ih =>
    have own : r = t.next ↔ r.number = t.next.number := by
      rw [StreamRef.mk.injEq]
    rw [List.mem_cons, ih]
    show r = t.next ∨ r.number < t.next.number ↔ r.number < t.next.number + 1
    rw [own]
    omega
  | update r source _ ih => rw [next_update, ih]
  | release o r _ ih => rw [next_release, ih]

theorem next_not_mem (h : Issues issued t) : t.next ∉ issued := fun mem => Nat.lt_irrefl _ (h.mem_iff.1 mem)

/-- **No reference is handed out twice.** -/
theorem nodup (h : Issues issued t) : issued.Nodup := by
  induction h with
  | empty => exact List.nodup_nil
  | register o source before ih => exact List.nodup_cons.2 ⟨before.next_not_mem, ih⟩
  | update _ _ _ ih => exact ih
  | release _ _ _ ih => exact ih

theorem change (h : ∃ issued, Issues issued t) (c : Change t t') : ∃ issued, Issues issued t' := by
  obtain ⟨issued, h⟩ := h
  cases c with
  | grow g =>
    cases g with
    | stay => exact ⟨issued, h⟩
    | update r source => exact ⟨issued, h.update r source⟩
    | register o source => exact ⟨_, h.register o source⟩
  | release o r => exact ⟨issued, h.release o r⟩

/-- A reference that was handed out is spent once its stream is gone. -/
theorem spent (h : Issues issued t) (mem : r ∈ issued) (gone : t.isLive r = false) : t.Spent r where
  old := h.mem_iff.1 mem
  gone := by simpa [isLive_eq] using gone

end Issues

theorem Changes.issues {t : Table} (c : Changes {} t) : ∃ issued, Issues issued t :=
  c.preserves (P := fun u => ∃ issued, Issues issued u) (fun _ _ c h => Issues.change h c) ⟨[], .empty⟩

end Table

/-! ## What refers to nothing -/

namespace World

variable {α : Type} {r : StreamRef}

/-- Where the stream is gone, the operation gives just this and touches nothing. -/
def Fails (r : StreamRef) (f : World → α × World) (a : α) : Prop :=
  ∀ w : World, w.table.entry? r = none → (f w).1 = a ∧ w.Untouched (f w).2

variable {f : World → α × World} {a : α}

/-- What a stream operation gives in place of an answer. -/
theorem fails_withStream (f : Source × Environment → α × Source × Environment) :
    Fails r (fun w => ((w.withStream r f).1.getD a, (w.withStream r f).2)) a := by
  intro w gone
  dsimp only
  rw [withStream_of_gone gone]
  exact ⟨rfl, rfl, rfl⟩

theorem fails_size : Fails r (fun w => (w.size r, w)) (-1) := by
  intro w gone
  refine ⟨?_, rfl, rfl⟩
  simp only [size, gone]

theorem Fails.call (hf : Fails r f a) (p : Primitive) {w : World} (gone : w.table.entry? r = none) :
    (w.call p f).1 = a ∧ w.Untouched (w.call p f).2 := by
  obtain ⟨same, table, env⟩ := hf (w.atCall p) gone
  rw [call_eq]
  exact ⟨same, table, env⟩

end World

namespace ReadStep

/-- What a handle gives for a stream that is gone. -/
def failure : ReadStep → Answer
  | seek .. | tell | size => .number (-1)
  | _ => .nothing

end ReadStep

namespace Handle

open World

variable {h : Handle} {r : StreamRef}

/-- A failed read has no data, with a scratch buffer or without one. -/
theorem fails_withScratch {n : Nat} {f : Scratch.Buffer → World → Option Bytes × Scratch.Buffer × World}
    (hf : ∀ b, Fails r (fun w => ((f b w).1, (f b w).2.2)) none) :
    Fails r (fun w => Answer.ofData (.ok (withScratch n w f).1, (withScratch n w f).2)) .nothing := by
  intro w gone
  obtain ⟨nothing, untouched⟩ : (withScratch n w f).1 = none ∧ w.Untouched (withScratch n w f).2 := by
    unfold withScratch
    split
    · exact ⟨rfl, rfl, rfl⟩
    · next b pool _ =>
      obtain ⟨nothing, table, env⟩ := hf b { w with pool := pool } gone
      exact ⟨nothing, table, env⟩
  dsimp only
  rw [nothing]
  exact ⟨rfl, untouched⟩

theorem fails_read (hr : h.ref? = some r) (n : Nat) : Fails r (fun w => Answer.ofData (h.read n w)) .nothing := by
  unfold read
  rw [hr]
  dsimp only
  refine fails_withScratch fun b w gone => ?_
  have primitive : Fails r (World.readBytes r n) ⟨-1, []⟩ := fails_withStream (Source.read n)
  obtain ⟨same, untouched⟩ := primitive.call .readBytes gone
  refine ⟨?_, untouched⟩
  dsimp only
  rw [same]
  rfl

theorem fails_readLine (hr : h.ref? = some r) (n : Nat) :
    Fails r (fun w => Answer.ofData (h.readLine n w)) .nothing := by
  unfold readLine
  rw [hr]
  dsimp only
  refine fails_withScratch fun b w gone => ?_
  have primitive : Fails r (World.readLine r n) (false, []) := fails_withStream (Source.device.readLine n)
  obtain ⟨same, untouched⟩ := primitive.call .readLine gone
  exact ⟨if_neg (Bool.eq_false_iff.1 (congrArg Prod.fst same)), untouched⟩

theorem fails_readCString (hr : h.ref? = some r) (n : Nat) (pos : Option Int) :
    Fails r (fun w => Answer.ofData (h.readCString n pos w)) .nothing := by
  unfold readCString
  rw [hr]
  dsimp only
  split
  · exact fun w _ => ⟨rfl, rfl, rfl⟩
  · refine fails_withScratch fun b w gone => ?_
    have primitive : Fails r (World.readCString r (pos.getD (-1)) n) (false, if n = 0 then [] else [0]) :=
      fails_withStream (Source.device.readCString (pos.getD (-1)) n)
    obtain ⟨same, untouched⟩ := primitive.call .readCString gone
    exact ⟨if_neg (Bool.eq_false_iff.1 (congrArg Prod.fst same)), untouched⟩

theorem fails_readSwapped (hr : h.ref? = some r) (n : Nat) (bigEndian : Bool) :
    Fails r (fun w => Answer.ofData (h.readSwapped n bigEndian w)) .nothing := by
  unfold readSwapped
  rw [hr]
  dsimp only
  split
  · exact fun w _ => ⟨rfl, rfl, rfl⟩
  · refine fails_withScratch fun b w gone => ?_
    have primitive : Fails r (World.readSwapped r bigEndian n) ⟨-1, []⟩ :=
      fails_withStream (Source.device.readSwapped bigEndian n)
    obtain ⟨same, untouched⟩ := primitive.call .readSwapped gone
    refine ⟨?_, untouched⟩
    dsimp only
    rw [same]
    rfl

/-- **A step on a stream that is gone** fails, and disturbs nothing. -/
theorem fails_perform (hr : h.ref? = some r) {step : ReadStep} (plain : step.onStream = true) :
    Fails r (fun w => step.perform h w) step.failure := by
  intro w gone
  cases step with
  | seek offset whence =>
    have primitive : Fails r (World.seek r offset whence) (-1) := fails_withStream (Source.seek offset whence)
    obtain ⟨same, untouched⟩ := primitive.call .seek gone
    simp only [ReadStep.perform, seek, hr]
    exact ⟨congrArg Answer.number same, untouched⟩
  | tell =>
    have primitive : Fails r (World.tell r) (-1) := fails_withStream Source.device.tell
    obtain ⟨same, untouched⟩ := primitive.call .tell gone
    simp only [ReadStep.perform, tell, hr]
    exact ⟨congrArg Answer.number same, untouched⟩
  | size =>
    obtain ⟨same, untouched⟩ := (fails_size (r := r)).call .size gone
    simp only [ReadStep.perform, size, hr]
    exact ⟨congrArg Answer.number same, untouched⟩
  | readByte =>
    have primitive : Fails r (World.readByte r) none := fails_withStream Source.device.nextByte
    obtain ⟨same, untouched⟩ := primitive.call .readByte gone
    simp only [ReadStep.perform, readByte, hr]
    rw [same]
    exact ⟨rfl, untouched⟩
  | read n => exact fails_read hr n w gone
  | readLine n => exact fails_readLine hr n w gone
  | readCString n pos => exact fails_readCString hr n pos w gone
  | readSwapped n bigEndian => exact fails_readSwapped hr n bigEndian w gone
  | _ => cases plain

/-- The handle gives -1 for every position and size and no data, and disturbs no stream. -/
def Silent (h : Handle) (w : World) : Prop :=
  ∀ steps : List ReadStep, (∀ step ∈ steps, step.onStream = true) →
    (ReadStep.performAll h w steps).1 = steps.map ReadStep.failure ∧ w.Untouched (ReadStep.performAll h w steps).2

theorem silent_of_gone (hr : h.ref? = some r) {w : World} (gone : w.table.entry? r = none) : h.Silent w := by
  intro steps plain
  induction steps generalizing w with
  | nil => exact ⟨rfl, rfl, rfl⟩
  | cons step rest ih =>
    obtain ⟨same, untouched⟩ := fails_perform hr (plain step (by simp)) w gone
    have still_gone : (step.perform h w).2.table.entry? r = none := by rw [untouched.table, gone]
    obtain ⟨later, untouched'⟩ := ih still_gone fun step' hs => plain step' (by simp [hs])
    refine ⟨?_, untouched.trans untouched'⟩
    simp only [ReadStep.performAll, same, later, List.map_cons]

end Handle

namespace Session

/-- **No stream comes back.** In every run from an empty table, each registration hands out another reference than all
before it, of live streams and of released ones, and none is greater than the number of registrations. Once its
stream is gone, a reference is never live again, whatever happens later, and every handle that still has it is
silent. -/
theorem no_resurrection {world : World} (showsCalls : Bool) (table : world.table = {}) (history : List SessionStep) :
    let after := fun steps => ((start world showsCalls).run steps).2
    let s := after history
    ∃ issued : List StreamRef, Table.Issues issued s.world.table ∧
      issued.Nodup ∧ issued.length = s.world.table.stats.opened ∧ (∀ r ∈ issued, r.number ≤ issued.length) ∧
      (∀ earlier, earlier <+: history → ∀ r, (after earlier).world.table.isLive r = true → r ∈ issued) ∧
      (∀ o source, (s.world.register o source).1 ∉ issued) ∧
      ∀ r ∈ issued, s.world.table.isLive r = false → ∀ later,
        (s.run later).2.world.table.isLive r = false ∧
          ∀ h : Handle, h.ref? = some r → h.Silent (s.run later).2.world := by
  intro after s
  obtain ⟨distinct, changes⟩ := changes_run (s := start world showsCalls) Keyed.distinct_nil history
  have began : (start world showsCalls).world.table = {} := table
  obtain ⟨issued, issues⟩ : ∃ issued, Table.Issues issued s.world.table := Table.Changes.issues (began ▸ changes)
  refine ⟨issued, issues, issues.nodup, issues.opened, fun r mem => ?_, ?_, fun o source => issues.next_not_mem, ?_⟩
  · have below := issues.mem_iff.1 mem
    have length := issues.length
    omega
  · -- what was live then was below the next reference, which only grows
    rintro earlier ⟨later, rfl⟩ r live
    obtain ⟨o, origin⟩ := Option.isSome_iff_exists.1 ((Table.isLive_eq _ r).symm.trans live)
    have sound := sound_run showsCalls table earlier
    have distinct' := (changes_run (s := start world showsCalls) Keyed.distinct_nil earlier).1
    have grown := (changes_run distinct' later).2.next_le
    rw [← run_append] at grown
    exact issues.mem_iff.2 (Nat.lt_of_lt_of_le (sound.issued r o origin) grown)
  · intro r mem gone later
    have spent := (issues.spent mem gone).changes (changes_run distinct later).2
    have absent : (s.run later).2.world.table.entry? r = none := by simpa [Table.origin?] using spent.gone
    refine ⟨?_, fun h hr => Handle.silent_of_gone hr absent⟩
    rw [Table.isLive_eq, spent.gone]
    rfl

/-- A handle over two bytes of memory is copied, closed and opened over them again. -/
def reopening : List SessionStep :=
  [.handle "h" .new, .handle "h" (.openMemory 16 2), .handle "h" (.copy "alias"), .handle "h" .close,
    .handle "h" (.openMemory 16 2)]

/-- The copy has the first reference still, and nothing to read. -/
theorem no_resurrection_reopening :
    let world : World := { env := { image := [⟨16, #[104, 105]⟩] } }
    let s := ((start world true).run reopening).2
    world.table = {} ∧ s.world.table.isLive StreamRef.first.next = true ∧
      ∃ copy, s.handles.get? "alias" = some copy ∧ copy.ref? = some .first ∧ copy.Silent s.world := by
  intro world s
  have table : world.table = {} := rfl
  obtain ⟨issued, -, -, -, -, seen, -, gone⟩ := no_resurrection true table reopening
  have handed_out : StreamRef.first ∈ issued := seen (reopening.take 2) (List.take_prefix 2 reopening) .first (by rfl)
  have closed : s.world.table.isLive .first = false := by rfl
  obtain ⟨-, silent⟩ := gone .first handed_out closed []
  exact ⟨table, by rfl, ⟨.borrowed .first, Handle.memoryName⟩, by rfl, rfl, silent _ rfl⟩

end Session
end ScriptStreams
