import ScriptStreams.Proofs.Accounting
import ScriptStreams.Proofs.Custody
import ScriptStreams.Proofs.Streams
/-!
# What opening and closing exchange

Closing releases what a handle holds, opening registers a stream, and both leave all other streams as they were and
where they were: `World.Exchanges` says so of any sequence of them, with the calls that were made for the releases and
the counters.
-/
namespace ScriptStreams

namespace World

/-- The calls for releases so far, the latest first. -/
def releaseCalls (w : World) : List Primitive := (w.calls.map (·.primitive)).filter Primitive.isRelease

/-- From `w` to `w'` the streams in `lost` were released, each by one call for its own kind of release, those in
`gained` were registered, and every other stream is as it was and stands where it stood. -/
structure Exchanges (lost gained : List Holding) (w w' : World) : Prop where
  released : ∀ x ∈ lost, w.table.origin? x.2 = some x.1 ∧ w'.table.origin? x.2 = none
  registered : ∀ x ∈ gained, w.table.origin? x.2 = none ∧ w'.table.origin? x.2 = some x.1
  others : ∀ r, (∀ x ∈ lost, x.2 ≠ r) → (∀ x ∈ gained, x.2 ≠ r) →
    w'.table.entry? r = w.table.entry? r ∧ w'.position r = w.position r
  surroundings : w'.env = w.env
  calls : w'.releaseCalls = lost.map (·.1.releaseCall) ++ w.releaseCalls
  opened : w'.table.stats.opened = w.table.stats.opened + gained.length
  closed : w'.table.stats.closed = w.table.stats.closed + lost.countP (·.1 = .created)
  tornDown : w'.table.stats.tornDown = w.table.stats.tornDown + lost.countP (·.1 = .adapted)
  live : w'.table.stats.live + lost.length = w.table.stats.live + gained.length

variable {lost lost' gained gained' : List Holding} {w w' w'' : World}

/-- Where a stream stands depends on the stream and on what surrounds it alone. -/
theorem position_congr {r : StreamRef} (entry : w'.table.entry? r = w.table.entry? r) (env : w'.env = w.env) :
    w'.position r = w.position r := by
  unfold position tell withStream
  rw [entry, env]
  cases w.table.entry? r <;> rfl

namespace Exchanges

theorem of_untouched (untouched : w.Untouched w') (calls : w'.releaseCalls = w.releaseCalls) :
    Exchanges [] [] w w' := by
  obtain ⟨table, env⟩ := untouched
  refine ⟨by simp, by simp, ?_, env, calls, ?_, ?_, ?_, ?_⟩
  · intro r _ _
    have entry : w'.table.entry? r = w.table.entry? r := by rw [table]
    exact ⟨entry, position_congr entry env⟩
  all_goals simp [table]

theorem origin? (h : Exchanges lost gained w w') {r : StreamRef} (kept : ∀ x ∈ lost, x.2 ≠ r)
    (old : ∀ x ∈ gained, x.2 ≠ r) : w'.table.origin? r = w.table.origin? r :=
  congrArg (Option.map Entry.origin) (h.others r kept old).1

/-- One exchange after another, if the second releases nothing that the first made, and makes nothing that the first
released. -/
theorem trans (first : Exchanges lost gained w w') (second : Exchanges lost' gained' w' w'')
    (kept : ∀ x ∈ gained, ∀ y ∈ lost', y.2 ≠ x.2) (fresh : ∀ x ∈ lost, ∀ y ∈ gained', y.2 ≠ x.2) :
    Exchanges (lost' ++ lost) (gained' ++ gained) w w'' := by
  have releasedThen : ∀ x ∈ lost, ∀ y ∈ lost', y.2 ≠ x.2 := by
    intro x hx y hy same
    have live := (second.released y hy).1
    rw [same, (first.released x hx).2] at live
    cases live
  have madeThen : ∀ x ∈ gained, ∀ y ∈ gained', y.2 ≠ x.2 := by
    intro x hx y hy same
    have unused := (second.registered y hy).1
    rw [same, (first.registered x hx).2] at unused
    cases unused
  refine ⟨?_, ?_, ?_, second.surroundings.trans first.surroundings, ?_, ?_, ?_, ?_, ?_⟩
  · intro x hx
    rcases List.mem_append.1 hx with hx | hx
    · have before := first.origin? (fun y hy => (releasedThen y hy x hx).symm) fun y hy => (kept y hy x hx).symm
      exact ⟨before ▸ (second.released x hx).1, (second.released x hx).2⟩
    · refine ⟨(first.released x hx).1, ?_⟩
      rw [second.origin? (releasedThen x hx) (fresh x hx)]
      exact (first.released x hx).2
  · intro x hx
    rcases List.mem_append.1 hx with hx | hx
    · have before := first.origin? (fun y hy => (fresh y hy x hx).symm) fun y hy => (madeThen y hy x hx).symm
      exact ⟨before ▸ (second.registered x hx).1, (second.registered x hx).2⟩
    · refine ⟨(first.registered x hx).1, ?_⟩
      rw [second.origin? (kept x hx) (madeThen x hx)]
      exact (first.registered x hx).2
  · intro r unreleased unmade
    obtain ⟨entry, position⟩ :=
      first.others r (fun x hx => unreleased x (by simp [hx])) fun x hx => unmade x (by simp [hx])
    obtain ⟨entry', position'⟩ :=
      second.others r (fun x hx => unreleased x (by simp [hx])) fun x hx => unmade x (by simp [hx])
    exact ⟨entry'.trans entry, position'.trans position⟩
  · rw [second.calls, first.calls, List.map_append, List.append_assoc]
  · rw [second.opened, first.opened, List.length_append]
    omega
  · rw [second.closed, first.closed, List.countP_append]
    omega
  · rw [second.tornDown, first.tornDown, List.countP_append]
    omega
  · have := first.live
    have := second.live
    simp only [List.length_append]
    omega

/-- What is untouched before or after does not count. -/
theorem after (h : Exchanges lost gained w' w'') (untouched : Exchanges [] [] w w') : Exchanges lost gained w w'' := by
  simpa using untouched.trans h (by simp) (by simp)

theorem before (h : Exchanges lost gained w w') (untouched : Exchanges [] [] w' w'') : Exchanges lost gained w w'' := by
  simpa using h.trans untouched (by simp) (by simp)

end Exchanges

/-! ## Releasing and registering -/

/-- A stream that is live and of this origin goes with the call for its release. -/
theorem exchanges_surrender (sound : w.table.Sound) {o : StreamOrigin} {r : StreamRef}
    (live : w.table.origin? r = some o) : Exchanges [(o, r)] [] w (w.surrender o r) := by
  have released := Table.release_released live
  obtain ⟨e, -, surrendered⟩ := surrender_of_released released
  obtain ⟨entry, found, -⟩ := Table.origin?_eq_some.1 live
  have shorter := Keyed.length_erase sound.distinct found
  have gone : ∀ r', Table.entry? ({ w.table with entries := w.table.entries.erase r }.countRelease o) r' =
      if r = r' then none else w.table.entry? r' := by
    intro r'
    cases o <;> exact Keyed.get?_erase w.table.entries r r'
  rw [surrendered]
  refine ⟨?_, by simp, ?_, rfl, ?_, ?_, ?_, ?_, ?_⟩
  · intro x hx
    obtain rfl : x = (o, r) := by simpa using hx
    refine ⟨live, ?_⟩
    show Option.map _ (Table.entry? _ r) = none
    rw [note, gone, if_pos rfl]
    rfl
  · intro r' kept _
    have ne : r ≠ r' := kept (o, r) (by simp)
    have stays := (gone r').trans (if_neg ne)
    exact ⟨stays, position_congr stays rfl⟩
  · cases o <;> rfl
  · cases o <;> rfl
  · cases o <;> rfl
  · cases o <;> rfl
  · cases o <;> exact shorter

theorem exchanges_register (sound : w.table.Sound) (o : StreamOrigin) (source : Source) :
    Exchanges [] [(o, w.table.next)] w (w.register o source).2 := by
  have fresh : w.table.entries.get? w.table.next = none := by
    simpa [Table.origin?, Table.entry?] using sound.next_fresh
  refine ⟨by simp, ?_, ?_, rfl, rfl, rfl, rfl, rfl, ?_⟩
  · intro x hx
    obtain rfl : x = (o, w.table.next) := by simpa using hx
    exact ⟨sound.next_fresh, (w.table.origin?_register o source _).trans (if_pos rfl)⟩
  · intro r _ other
    have ne : w.table.next ≠ r := other (o, w.table.next) (by simp)
    have stays := (w.table.entry?_register o source r).trans (if_neg ne)
    exact ⟨stays, position_congr stays rfl⟩
  · show (w.table.entries.set w.table.next ⟨o, source⟩).length + 0 = w.table.entries.length + 1
    rw [Keyed.set, Keyed.erase_of_get?_none fresh]
    rfl

/-- The operation makes a stream of this origin under the next reference, or makes none and touches none. -/
def Attempts (o : StreamOrigin) (f : World → Option StreamRef × World) : Prop :=
  ∀ w, w.table.Sound →
    (∃ w', f w = (none, w') ∧ w.Untouched w' ∧ Exchanges [] [] w w') ∨
      ∃ w', f w = (some w.table.next, w') ∧ Exchanges [] [(o, w.table.next)] w w'

theorem attempts_openByPath (path : String) (remote : Bool) : Attempts .created (openByPath path remote) := by
  intro w sound
  unfold openByPath
  split
  · exact .inl ⟨_, rfl, ⟨rfl, rfl⟩, .of_untouched ⟨rfl, rfl⟩ rfl⟩
  · split
    · exact .inl ⟨_, rfl, ⟨rfl, rfl⟩, .of_untouched ⟨rfl, rfl⟩ rfl⟩
    · exact .inr ⟨_, rfl, exchanges_register sound .created _⟩

theorem attempts_createMemoryStream (start size : Nat) : Attempts .created (createMemoryStream start size) := by
  intro w sound
  unfold createMemoryStream
  split
  · exact .inl ⟨_, rfl, ⟨rfl, rfl⟩, .of_untouched ⟨rfl, rfl⟩ rfl⟩
  · split
    · exact .inl ⟨_, rfl, ⟨rfl, rfl⟩, .of_untouched ⟨rfl, rfl⟩ rfl⟩
    · exact .inr ⟨_, rfl, exchanges_register sound .created _⟩

theorem attempts_adaptRawHandle (openFile : Nat) : Attempts .adapted (adaptRawHandle openFile) := by
  intro w sound
  unfold adaptRawHandle
  split
  · exact .inl ⟨_, rfl, ⟨rfl, rfl⟩, .of_untouched ⟨rfl, rfl⟩ rfl⟩
  · exact .inl ⟨_, rfl, ⟨rfl, rfl⟩, .of_untouched ⟨rfl, rfl⟩ rfl⟩
  · exact .inr ⟨_, rfl, exchanges_register sound .adapted _⟩

theorem Attempts.call {o : StreamOrigin} {f : World → Option StreamRef × World} (attempts : Attempts o f)
    {p : Primitive} (quiet : p.isRelease = false) : Attempts o fun w => w.call p f := by
  intro w sound
  have recorded : (w.atCall p).releaseCalls = w.releaseCalls := by simp [releaseCalls, atCall, quiet]
  have opened : Exchanges [] [] w (w.atCall p) := .of_untouched ⟨rfl, rfl⟩ recorded
  rcases attempts (w.atCall p) sound with ⟨w', failed, untouched, exchanged⟩ | ⟨w', made, exchanged⟩
  · exact .inl ⟨_, call_of_eq failed, ⟨untouched.table, untouched.env⟩,
      (exchanged.after opened).before (.of_untouched ⟨rfl, rfl⟩ rfl)⟩
  · exact .inr ⟨_, call_of_eq made, (exchanged.after opened).before (.of_untouched ⟨rfl, rfl⟩ rfl)⟩

/-- The world that a window finds. -/
def inWindow (w : World) : World := ({ w with lock := w.lock.openWindow } : World).note .windowOpened

/-- A window adds nothing to what is exchanged in it. -/
theorem exchanges_window {α : Type} {f : World → α × World} (h : Exchanges lost gained w.inWindow (f w.inWindow).2) :
    Exchanges lost gained w (w.window f).2 := by
  have opened : Exchanges [] [] w w.inWindow := .of_untouched ⟨rfl, rfl⟩ rfl
  have closed : Exchanges [] [] (f w.inWindow).2 (w.window f).2 := .of_untouched ⟨rfl, rfl⟩ rfl
  exact (h.after opened).before closed

end World

namespace Handle

variable {h : Handle} {w : World}

/-- What the handle holds is live and of the origin that its release is for. -/
def Keeps (h : Handle) (w : World) : Prop := ∀ x ∈ h.holding, w.table.origin? x.2 = some x.1

theorem exchanges_releaseStream (sound : w.table.Sound) {own : Ownership}
    (keeps : ∀ x ∈ own.holding, w.table.origin? x.2 = some x.1) :
    w.Exchanges own.holding [] (releaseStream own w).2 := by
  cases own with
  | empty => exact .of_untouched ⟨rfl, rfl⟩ rfl
  | borrowed r => exact .of_untouched ⟨rfl, rfl⟩ rfl
  | owned r => exact World.exchanges_surrender sound (keeps (.created, r) (by simp [Ownership.holding]))
  | adapted r => exact World.exchanges_surrender sound (keeps (.adapted, r) (by simp [Ownership.holding]))

/-- **Closing** releases what the handle holds. -/
theorem exchanges_close (sound : w.table.Sound) (keeps : h.Keeps w) : w.Exchanges h.holding [] (h.close w).2 := by
  unfold close
  split
  · have released := exchanges_releaseStream (w := w.inWindow) sound keeps
    exact World.exchanges_window released
  · next closed =>
    rw [holding_of_not_isOpen (by simpa using closed)]
    exact .of_untouched ⟨rfl, rfl⟩ rfl

end Handle
end ScriptStreams
