import Mathlib.Data.Set.Card
import ScriptStreams.Proofs.TableRuns
/-!
# The table's books

The counters of the table agree with what is in it, and a stream leaves it only by the release of its own kind: by
closing if it was created, by tearing down if it was adapted. A release of the other kind, of an unknown
reference or for a second time does nothing (`Session.accounting`).
-/
namespace ScriptStreams

theorem Keyed.mem_keys {κ α : Type} [DecidableEq κ] {m : Keyed κ α} {k : κ} :
    k ∈ m.keys ↔ (m.get? k).isSome := by
  simp [keys, get?]

namespace Table

/-- Each live stream is counted once. -/
theorem Sound.live_eq_ncard {t : Table} (h : t.Sound) : t.stats.live = {r | t.isLive r = true}.ncard := by
  have live : {r | t.isLive r = true} = (t.entries.keys.toFinset : Set StreamRef) := by
    ext r
    rw [List.coe_toFinset]
    exact Keyed.mem_keys.symm
  have distinct : t.entries.keys.Nodup := h.distinct
  rw [live, Set.ncard_coe_finset, List.toFinset_card_of_nodup distinct]
  exact (List.length_map _).symm

/-- What a release leaves of a live stream. -/
theorem origin?_release {t : Table} {r : StreamRef} {o : StreamOrigin} (live : t.origin? r = some o)
    (o' : StreamOrigin) (r' : StreamRef) :
    (t.release o' r').2.origin? r = if (o', r') = (o, r) then none else some o := by
  rcases release_cases t o' r' with ⟨own, released⟩ | ⟨other, -, refused⟩
  · rw [released, origin?_countRelease, origin?_erase]
    by_cases same : r' = r
    · subst same
      obtain rfl : o' = o := Option.some.inj (own.symm.trans live)
      rw [if_pos rfl, if_pos rfl]
    · rw [if_neg same, if_neg fun h => same (congrArg Prod.snd h), live]
  · rw [refused, live, if_neg]
    rintro ⟨⟩
    exact other live

end Table

/-! ## Steps on the table -/

namespace TableStep

variable {rawNames : Keyed String Nat} {w : World} {step : TableStep} {o : StreamOrigin} {r : StreamRef}

/-- **A stream goes by the release of its own kind**, and by no other step on the table. -/
theorem origin?_perform (sound : w.table.Sound) (live : w.table.origin? r = some o) :
    (step.perform rawNames w).2.table.origin? r = if step.release? = some (o, r) then none else some o := by
  cases asked : step.release? with
  | none => exact (perform_grows asked).table.origin? sound live
  | some x =>
    rw [perform_release asked]
    refine (w.table.origin?_release live x.1 x.2).trans ?_
    simp

/-- A release that is not due does nothing. -/
theorem untouched_perform (asked : step.release? = some (o, r)) (undue : w.table.origin? r ≠ some o) :
    w.Untouched (step.perform rawNames w).2 := by
  rw [perform_release asked]
  exact World.untouched_release undue

end TableStep

namespace Session

/-- **The books balance.** In every run from an empty table, with releases of any kind and of any references on the way,
what was opened is closed, torn down or live, and as many streams are live as are counted. A live stream goes with
a step on the table if and only if that asks for its release, and for its own kind of release. A release that is
not due, of an unknown reference or of the other kind, touches no stream and no counter; nor does any release of a
reference that was released before, however long ago. -/
theorem accounting {world : World} (showsCalls : Bool) (table : world.table = {}) (history : List SessionStep) :
    let s := ((start world showsCalls).run history).2
    let t := s.world.table
    t.stats.opened = t.stats.closed + t.stats.tornDown + t.stats.live ∧
      t.stats.live = {r | t.isLive r = true}.ncard ∧
      (∀ step : TableStep, ∀ o r, t.origin? r = some o →
        (step.perform s.rawNames s.world).2.table.origin? r = if step.release? = some (o, r) then none else some o) ∧
      (∀ step : TableStep, ∀ o r, step.release? = some (o, r) → t.origin? r ≠ some o →
        s.world.Untouched (step.perform s.rawNames s.world).2) ∧
      ∀ first second : TableStep, ∀ o o' r, first.release? = some (o, r) → second.release? = some (o', r) →
        t.origin? r = some o → ∀ later,
          let s' := (s.run (.table first :: later)).2
          s'.world.Untouched (second.perform s'.rawNames s'.world).2 := by
  intro s t
  have sound : t.Sound := sound_run showsCalls table history
  refine ⟨sound.balance, sound.live_eq_ncard, fun step o r live => TableStep.origin?_perform sound live,
    fun step o r asked undue => TableStep.untouched_perform asked undue, ?_⟩
  intro first second o o' r asked asked' live later s'
  have distinct : s.handles.Distinct := (changes_run (s := start world showsCalls) Keyed.distinct_nil history).1
  -- the first release takes effect, and no later step brings the stream back
  have spent : (s.step (.table first)).2.world.table.Spent r := by
    refine ⟨Nat.lt_of_lt_of_le (sound.issued r o live) (first.perform_change s.rawNames s.world).next_le, ?_⟩
    exact (TableStep.origin?_perform sound live).trans (if_pos asked)
  have gone : s'.world.table.Spent r := spent.changes (changes_run (changes_step distinct _).1 later).2
  exact TableStep.untouched_perform asked' (by simp [gone.gone])

/-- A pipe is adapted and a stream registered; then each is asked for in the wrong way. -/
def mixedUp : List SessionStep :=
  [.raw "pipe" (.pipe [1, 2]), .table (.adapt "pipe"), .table (.register { data := #[3], reportedSize := 1 }),
    .table (.closeCreated .first), .table (.tearDown StreamRef.first.next)]

/-- Both are live still. Torn down while the other is closed, the adapted one is not torn down again. -/
theorem accounting_mixedUp :
    let world : World := {}
    let s := ((start world true).run mixedUp).2
    let s' := (s.run [.table (.tearDown .first), .table (.closeCreated StreamRef.first.next)]).2
    world.table = {} ∧ s.world.table.stats = ⟨2, 0, 0, 2⟩ ∧ {r | s.world.table.isLive r = true}.ncard = 2 ∧
      s'.world.table.stats = ⟨2, 1, 1, 0⟩ ∧
      s'.world.Untouched (TableStep.perform s'.rawNames s'.world (.tearDown .first)).2 := by
  intro world s s'
  have table : world.table = {} := rfl
  obtain ⟨-, live, -, -, again⟩ := accounting true table mixedUp
  have stats : s.world.table.stats = ⟨2, 0, 0, 2⟩ := by rfl
  have adapted : s.world.table.origin? .first = some .adapted := by rfl
  exact ⟨table, stats, live.symm.trans (congrArg TableStats.live stats), by rfl,
    again (.tearDown .first) (.tearDown .first) .adapted .adapted .first rfl rfl adapted
      [.table (.closeCreated StreamRef.first.next)]⟩

end Session
end ScriptStreams
