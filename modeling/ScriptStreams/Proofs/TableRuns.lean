import ScriptStreams.Proofs.SessionMoves
/-!
# What sessions do to the table

A table grows by registrations (`Table.Grows`) and loses streams by releases; nothing else ever happens to it
(`Table.Change`), whatever the steps of a session are: on handles, on the table or around them
(`Session.changes_run`). So what these changes keep, every run keeps: that the table is sound, and that a stream which
is gone stays gone (`Table.Spent`). Of the steps on the table itself only the two releases take a stream away
(`TableStep.perform_grows`, `TableStep.perform_release`).
-/
namespace ScriptStreams

namespace Table

/-- No stream is taken away: nothing happened, one went on, or one was added. -/
inductive Grows (t : Table) : Table → Prop where
  | stay : Grows t t
  | update (r : StreamRef) (source : Source) : Grows t (t.update r source)
  | register (o : StreamOrigin) (source : Source) : Grows t (t.register o source).2

inductive Change (t : Table) : Table → Prop where
  | grow {t' : Table} : t.Grows t' → Change t t'
  /-- A request for a release, granted or refused. -/
  | release (o : StreamOrigin) (r : StreamRef) : Change t (t.release o r).2

abbrev Changes := Relation.ReflTransGen Change

/-- What every change keeps holds after any sequence of them. -/
theorem Changes.preserves {P : Table → Prop} (change : ∀ t t', Change t t' → P t → P t') {t t' : Table}
    (h : Changes t t') (ht : P t) : P t' := by
  induction h with
  | refl => exact ht
  | tail _ last ih => exact change _ _ last ih

theorem Sound.change {t t' : Table} (c : Change t t') (h : t.Sound) : t'.Sound := by
  cases c with
  | grow g =>
    cases g with
    | stay => exact h
    | update r source => exact h.update r source
    | register o source => exact h.register o source
  | release o r => exact h.release o r

theorem next_update (t : Table) (r : StreamRef) (source : Source) : (t.update r source).next = t.next := by
  unfold update
  split <;> rfl

theorem next_release (t : Table) (o : StreamOrigin) (r : StreamRef) : (t.release o r).2.next = t.next := by
  rcases release_cases t o r with ⟨-, h⟩ | ⟨-, -, h⟩
  · rw [h]
    cases o <;> rfl
  · rw [h]

/-- References that were handed out stay so. -/
theorem Grows.next_le {t t' : Table} (g : t.Grows t') : t.next.number ≤ t'.next.number := by
  cases g with
  | stay => exact Nat.le_refl _
  | update r source => exact Nat.le_of_eq (congrArg StreamRef.number (t.next_update r source).symm)
  | register o source => exact Nat.le_succ _

theorem Change.next_le {t t' : Table} (c : Change t t') : t.next.number ≤ t'.next.number := by
  cases c with
  | grow g => exact g.next_le
  | release o r => exact Nat.le_of_eq (congrArg StreamRef.number (t.next_release o r).symm)

theorem Changes.next_le {t t' : Table} (h : Changes t t') : t.next.number ≤ t'.next.number :=
  h.preserves (P := fun u => t.next.number ≤ u.next.number) (fun _ _ c le => Nat.le_trans le c.next_le)
    (Nat.le_refl _)

/-- A live stream stays as it came to be. -/
theorem Grows.origin? {t t' : Table} (g : t.Grows t') (sound : t.Sound) {r : StreamRef} {o : StreamOrigin}
    (live : t.origin? r = some o) : t'.origin? r = some o := by
  cases g with
  | stay => exact live
  | update r' source => rw [origin?_update, live]
  | register o' source =>
    have old : t.next ≠ r := fun h => absurd (sound.issued r o live) (by rw [h]; exact Nat.lt_irrefl _)
    rw [origin?_register, if_neg old, live]

/-- The reference was handed out before, and its stream is gone. -/
structure Spent (t : Table) (r : StreamRef) : Prop where
  old : r.number < t.next.number
  gone : t.origin? r = none

/-- A registration takes a new reference, so it brings no stream back. -/
theorem Spent.change {t t' : Table} {r : StreamRef} (h : t.Spent r) (c : Change t t') : t'.Spent r := by
  refine ⟨Nat.lt_of_lt_of_le h.old c.next_le, ?_⟩
  cases c with
  | grow g =>
    cases g with
    | stay => exact h.gone
    | update r' source => rw [origin?_update, h.gone]
    | register o source =>
      have new : t.next ≠ r := fun hr => Nat.lt_irrefl _ (hr ▸ h.old)
      rw [origin?_register, if_neg new, h.gone]
  | release o r' =>
    rcases release_cases t o r' with ⟨-, released⟩ | ⟨-, -, refused⟩
    · rw [released, origin?_countRelease, origin?_erase]
      split
      · rfl
      · exact h.gone
    · rw [refused, h.gone]

/-- **No stream comes back.** -/
theorem Spent.changes {t t' : Table} {r : StreamRef} (h : t.Spent r) (c : Changes t t') : t'.Spent r :=
  c.preserves (P := fun u => u.Spent r) (fun _ _ c h => h.change c) h

end Table

/-! ## Worlds -/

/-- Streams went on or one was added, and neither the scratch pool nor the address space changed. -/
structure World.Grows (w w' : World) : Prop where
  table : w.table.Grows w'.table
  pool : w'.pool = w.pool
  space : w'.space = w.space

namespace World

/-- No stream changed, and nothing that surrounds the streams. -/
structure Untouched (w w' : World) : Prop where
  table : w'.table = w.table
  env : w'.env = w.env

theorem Untouched.trans {w₁ w₂ w₃ : World} (h : w₁.Untouched w₂) (h' : w₂.Untouched w₃) : w₁.Untouched w₃ :=
  ⟨h'.table.trans h.table, h'.env.trans h.env⟩

/-- A release of a stream that is not there, or of the other kind, does nothing. -/
theorem untouched_release {w : World} {o : StreamOrigin} {r : StreamRef} (h : w.table.origin? r ≠ some o) :
    w.Untouched (w.release o r) := by
  rcases Table.release_cases w.table o r with ⟨live, -⟩ | ⟨-, -, refused⟩
  · exact absurd live h
  · exact ⟨refused, rfl⟩

variable {α : Type} (w : World)

theorem grows_withStream (r : StreamRef) (f : Source × Environment → α × Source × Environment) :
    w.Grows (w.withStream r f).2 := by
  unfold withStream
  split
  · exact ⟨.stay, rfl, rfl⟩
  · exact ⟨.update r _, rfl, rfl⟩

theorem grows_openByPath (path : String) (remote : Bool) : w.Grows (w.openByPath path remote).2 := by
  unfold openByPath
  split
  · exact ⟨.stay, rfl, rfl⟩
  · split
    · exact ⟨.stay, rfl, rfl⟩
    · exact ⟨.register .created _, rfl, rfl⟩

theorem grows_createMemoryStream (start size : Nat) : w.Grows (w.createMemoryStream start size).2 := by
  unfold createMemoryStream
  split
  · exact ⟨.stay, rfl, rfl⟩
  · split
    · exact ⟨.stay, rfl, rfl⟩
    · exact ⟨.register .created _, rfl, rfl⟩

theorem grows_adaptRawHandle (openFile : Nat) : w.Grows (w.adaptRawHandle openFile).2 := by
  unfold adaptRawHandle
  split
  · exact ⟨.stay, rfl, rfl⟩
  · exact ⟨.stay, rfl, rfl⟩
  · exact ⟨.register .adapted _, rfl, rfl⟩

end World

/-! ## Steps on the table -/

namespace TableStep

/-- The release that the step asks for, if it does. -/
def release? : TableStep → Option (StreamOrigin × StreamRef)
  | closeCreated r => some (.created, r)
  | tearDown r => some (.adapted, r)
  | _ => none

variable {rawNames : Keyed String Nat} {w : World} {step : TableStep}

theorem perform_release {o : StreamOrigin} {r : StreamRef} (h : step.release? = some (o, r)) :
    (step.perform rawNames w).2 = w.release o r := by
  cases step with
  | closeCreated r' => cases h; rfl
  | tearDown r' => cases h; rfl
  | _ => cases h

theorem perform_grows (h : step.release? = none) : w.Grows (step.perform rawNames w).2 := by
  have unchanged : w.Grows w := ⟨.stay, rfl, rfl⟩
  cases step with
  | openPath path remote => exact w.grows_openByPath path remote
  | openMemory start length => exact w.grows_createMemoryStream start length
  | adapt raw =>
    simp only [perform]
    split
    · exact w.grows_adaptRawHandle _
    · exact unchanged
  | register source => exact ⟨.register .created _, rfl, rfl⟩
  | closeCreated r => cases h
  | tearDown r => cases h
  | seek r offset whence => exact w.grows_withStream r (Source.seek offset whence)
  | tell r => exact w.grows_withStream r Source.device.tell
  | readByte r =>
    have read : w.Grows (w.readByte r).2 := w.grows_withStream r Source.device.nextByte
    simp only [perform]
    split <;> next hb => rw [hb] at read; exact read
  | read r buffer => exact w.grows_withStream r (Source.read buffer.length)
  | readSwapped r bigEndian buffer =>
    exact w.grows_withStream r (Source.device.readSwapped bigEndian buffer.length)
  | readLine r buffer => exact w.grows_withStream r (Source.device.readLine buffer.length)
  | readCString r pos buffer => exact w.grows_withStream r (Source.device.readCString pos buffer.length)
  | stats => exact unchanged
  | describe => exact unchanged
  | isLive r => exact unchanged
  | size r => exact unchanged

theorem perform_change (rawNames : Keyed String Nat) (w : World) (step : TableStep) :
    w.table.Change (step.perform rawNames w).2.table := by
  cases h : step.release? with
  | none => exact .grow (perform_grows h).table
  | some x =>
    rw [perform_release h]
    exact .release x.1 x.2

end TableStep

/-! ## Runs -/

theorem Move.changes {a b : List Holding × World} (m : Move a b) : Table.Changes a.2.table b.2.table := by
  cases m with
  | stream _ _ => exact .single (.grow (.update _ _))
  | gain o source => exact .single (.grow (.register o source))
  | lose o r => exact .single (.release o r)
  | _ => exact .refl

namespace Session

/-- A run of two parts is a run of the second after the first. -/
theorem run_append (s : Session) (first second : List SessionStep) :
    (s.run (first ++ second)).2 = ((s.run first).2.run second).2 := by
  induction first generalizing s with
  | nil => rfl
  | cons step rest ih => exact ih (s.step step).2

theorem changes_step {s : Session} (hd : s.handles.Distinct) (step : SessionStep) :
    (s.step step).2.handles.Distinct ∧ Table.Changes s.world.table (s.step step).2.world.table := by
  cases onTable : step.onTable with
  | true =>
    cases step with
    | table step => exact ⟨hd, .single (step.perform_change s.rawNames s.world)⟩
    | _ => cases onTable
  | false =>
    exact step_preserves (P := fun a => Table.Changes s.world.table a.2.table)
      (fun _ _ m changed => changed.trans m.changes) (fun _ _ _ _ changed => changed) hd .refl onTable

/-- **All that a run does to the table** is to register, to release and to let streams go on. -/
theorem changes_run {s : Session} (hd : s.handles.Distinct) (steps : List SessionStep) :
    (s.run steps).2.handles.Distinct ∧ Table.Changes s.world.table (s.run steps).2.world.table := by
  induction steps generalizing s with
  | nil => exact ⟨hd, .refl⟩
  | cons step rest ih =>
    obtain ⟨distinct, changed⟩ := changes_step hd step
    obtain ⟨distinct', changed'⟩ := ih distinct
    exact ⟨distinct', changed.trans changed'⟩

/-- The table of a session that began with an empty one is sound. -/
theorem sound_run {world : World} (showsCalls : Bool) (table : world.table = {}) (steps : List SessionStep) :
    ((start world showsCalls).run steps).2.world.table.Sound := by
  have initial : (start world showsCalls).world.table.Sound := by
    show world.table.Sound
    rw [table]
    exact Table.sound_empty
  exact (changes_run Keyed.distinct_nil steps).2.preserves (fun _ _ c h => h.change c) initial

end Session
end ScriptStreams
