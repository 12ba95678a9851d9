import ScriptStreams.Proofs.Exchange
/-!
# Opening

The two ways to open a handle go about it in opposite orders. Opening a path closes what was held and then tries;
opening memory tries and then closes. So a path that cannot be opened leaves an empty handle, memory that cannot be
opened leaves everything, and where the opening succeeds the two come to the same (`Session.opening_exchanges`).
-/
namespace ScriptStreams

/-- What moves do to the table. -/
theorem Moves.changes {a b : List Holding × World} (m : Moves a b) : Table.Changes a.2.table b.2.table :=
  m.preserves (P := fun b => Table.Changes a.2.table b.2.table) (fun _ _ last before => before.trans last.changes) .refl

theorem Table.Sound.changes {t t' : Table} (sound : t.Sound) (c : Table.Changes t t') : t'.Sound :=
  c.preserves (fun _ _ last before => before.change last) sound

namespace Handle

variable {h : Handle} {w : World}

/-! ## The two outcomes -/

/-- What a handle keeps was handed out before. -/
theorem Keeps.ne_of_le (keeps : h.Keeps w) (sound : w.table.Sound) {r : StreamRef}
    (later : w.table.next.number ≤ r.number) : ∀ x ∈ h.holding, x.2 ≠ r := by
  rintro x hx rfl
  have issued := sound.issued x.2 x.1 (keeps x hx)
  omega

/-- A path is opened after what was held is released. -/
theorem openPath_outcome (sound : w.table.Sound) (keeps : h.Keeps w) (path : String) (remote : Bool) :
    (∃ w', h.openPath path remote w = (.error (.openFailed path), (h.close w).1, w') ∧ w.Exchanges h.holding [] w') ∨
      ∃ r w', h.openPath path remote w = (.ok (), ⟨.owned r, path⟩, w') ∧
        w.Exchanges h.holding [(.created, r)] w' := by
  have closed := exchanges_close sound keeps
  have changes : Table.Changes w.table (h.close w).2.table := (h.moves_close w []).changes
  have attempts := (World.attempts_openByPath path remote).call (p := .openByPath) rfl
  rcases attempts (h.close w).2 (sound.changes changes) with ⟨w', failed, -, exchanged⟩ | ⟨w', made, exchanged⟩
  · refine .inl ⟨w', ?_, closed.before exchanged⟩
    simp only [openPath, failed]
  · have other : ∀ x ∈ h.holding, x.2 ≠ (h.close w).2.table.next := keeps.ne_of_le sound changes.next_le
    have both : w.Exchanges h.holding [(.created, (h.close w).2.table.next)] w' := by
      simpa using closed.trans exchanged (by simp) (by simpa using fun x hx => (other x hx).symm)
    refine .inr ⟨(h.close w).2.table.next, w'.note .inputOpened, ?_, both.before (.of_untouched ⟨rfl, rfl⟩ rfl)⟩
    simp only [openPath, made]

/-- Memory is opened before what was held is released. -/
theorem openMemory_outcome (sound : w.table.Sound) (keeps : h.Keeps w) (start size : Nat) :
    (∃ w', h.openMemory start size w = (.error (.memoryUnavailable start size), h, w') ∧ w.Untouched w' ∧
        w.Exchanges [] [] w') ∨
      ∃ r w', h.openMemory start size w = (.ok (), ⟨.owned r, memoryName⟩, w') ∧
        w.Exchanges h.holding [(.created, r)] w' := by
  have attempts := (World.attempts_createMemoryStream start size).call (p := .createMemoryStream) rfl
  rcases attempts w sound with ⟨w', failed, untouched, exchanged⟩ | ⟨w', made, exchanged⟩
  · refine .inl ⟨w', ?_, untouched, exchanged⟩
    simp only [openMemory, failed]
  · have other : ∀ x ∈ h.holding, x.2 ≠ w.table.next := keeps.ne_of_le sound (Nat.le_refl _)
    have keepsThen : h.Keeps w' := by
      intro x hx
      rw [exchanged.origin? (by simp) (by simpa using (other x hx).symm)]
      exact keeps x hx
    have moved := (leads_createMemoryStream [] start size).call (p := .createMemoryStream) rfl w
    dsimp only at moved made
    rw [made] at moved
    have soundThen : w'.table.Sound := sound.changes moved.changes
    have closed := exchanges_close soundThen keepsThen
    have both : w.Exchanges h.holding [(.created, w.table.next)] (h.close w').2 := by
      simpa using exchanged.trans closed (by simpa using other) (by simp)
    refine .inr ⟨w.table.next, (h.close w').2.note .memoryInputOpened, ?_, both.before (.of_untouched ⟨rfl, rfl⟩ rfl)⟩
    simp only [openMemory, made]

/-- A shared open file is adapted or refused; no handle is closed for it. -/
theorem ofRaw_outcome (sound : w.table.Sound) (openFile : Nat) :
    (∃ w', ofRaw openFile w = (none, w') ∧ w.Untouched w' ∧ w.Exchanges [] [] w') ∨
      ∃ r w', ofRaw openFile w = (some ⟨.adapted r, rawName openFile⟩, w') ∧
        w.Exchanges [] [(.adapted, r)] w' := by
  have attempts := (World.attempts_adaptRawHandle openFile).call (p := .adaptRawHandle) rfl
  rcases attempts w sound with ⟨w', failed, untouched, exchanged⟩ | ⟨w', made, exchanged⟩
  · refine .inl ⟨w', ?_, untouched, exchanged⟩
    simp only [ofRaw, failed]
  · refine .inr ⟨_, w'.note .rawHandleAdapted, ?_, exchanged.before (.of_untouched ⟨rfl, rfl⟩ rfl)⟩
    simp only [ofRaw, made]

/-! ## Names -/

/-- A handle shows a name only for a stream. -/
def Proper (h : Handle) : Prop := h.ownership = .empty → h.name = ""

theorem Proper.eq_empty (proper : h.Proper) (closed : h.isOpen = false) : h = {} := by
  have empty : h.ownership = .empty := by simpa [isOpen] using closed
  have unnamed := proper empty
  obtain ⟨own, name⟩ := h
  simp_all

/-- A proper handle that was closed is as good as new. -/
theorem Proper.close (proper : h.Proper) : (h.close w).1 = {} := by
  unfold Handle.close
  split
  · rfl
  · next closed => exact proper.eq_empty (by simpa using closed)

theorem proper_borrow (r : StreamRef) : (borrow r).Proper := by
  intro empty
  cases empty

theorem Proper.copy (proper : h.Proper) : h.copy.Proper := by
  obtain ⟨own, name⟩ := h
  cases own with
  | empty => exact proper
  | owned | borrowed | adapted => intro empty; cases empty

theorem proper_ofRaw {openFile : Nat} (made : (ofRaw openFile w).1 = some h) : h.Proper := by
  unfold ofRaw at made
  split at made
  · cases made
  · cases made
    intro empty
    cases empty

theorem Proper.openPath (proper : h.Proper) (path : String) (remote : Bool) :
    (h.openPath path remote w).2.1.Proper := by
  have closed : (h.close w).1 = {} := proper.close
  simp only [Handle.openPath]
  generalize h.close w = closing at closed
  obtain ⟨h', w'⟩ := closing
  obtain rfl : h' = {} := closed
  split
  · intro _
    rfl
  · intro empty
    cases empty

theorem Proper.openMemory (proper : h.Proper) (start size : Nat) : (h.openMemory start size w).2.1.Proper := by
  unfold Handle.openMemory
  split
  · exact proper
  · intro empty
    cases empty

theorem intResult_handle (h : Handle) (x : Except StreamError Int × World) : (h.intResult x).2.1 = h := by
  obtain ⟨_ | _, w⟩ := x <;> rfl

theorem dataResult_handle (h : Handle) (make : Option Bytes → World → Value × World)
    (x : Except StreamError (Option Bytes) × World) : (h.dataResult make x).2.1 = h := by
  obtain ⟨_ | _, w⟩ := x <;> rfl

theorem Proper.perform (proper : h.Proper) (q : Request) : (h.perform q w).2.1.Proper := by
  cases q with
  | «open» path remote =>
    rw [Handle.perform, openResult_snd]
    exact proper.openPath path remote
  | openMemory start size =>
    rw [Handle.perform, openResult_snd]
    exact proper.openMemory start size
  | attach r => exact proper_borrow r
  | close =>
    show (h.close w).1.Proper
    rw [proper.close]
    intro _
    rfl
  | seek | tell | size | copyRange =>
    rw [Handle.perform, intResult_handle]
    exact proper
  | read | readLine | readCString | readSwapped =>
    rw [Handle.perform, dataResult_handle]
    exact proper
  | readByte =>
    simp only [Handle.perform]
    split <;> exact proper
  | isOpen => exact proper
  | name => exact proper

theorem Proper.callMethod (proper : h.Proper) (name : String) (args : List Value) :
    (h.callMethod name args w).2.1.Proper := by
  unfold Handle.callMethod
  split
  · exact proper
  · next q _ =>
    have performed := proper.perform (w := w) q
    split <;> next found => rw [found] at performed; exact performed

end Handle

/-! ## Sessions -/

namespace Session

variable {s : Session}

/-- All handles of the session are proper. -/
def Proper (s : Session) : Prop := ∀ e ∈ s.handles, e.2.Proper

theorem Proper.set (proper : s.Proper) (name : String) {h : Handle} (stored : h.Proper) :
    ∀ e ∈ s.handles.set name h, e.2.Proper := by
  intro e he
  rcases List.mem_cons.1 he with rfl | he
  · exact stored
  · exact proper e (List.mem_filter.1 he).1

theorem Proper.dropHandle (proper : s.Proper) (name : String) : (s.dropHandle name).Proper := by
  unfold Session.dropHandle
  split
  · intro e he
    exact proper e (List.mem_filter.1 he).1
  · exact proper

theorem Proper.store (proper : s.Proper) (name : String) {h : Handle} (stored : h.Proper) : (s.store name h).Proper :=
  (proper.dropHandle name).set name stored

theorem Proper.storeIfMade (proper : s.Proper) (name : String) {made : Option Handle}
    (stored : ∀ h, made = some h → h.Proper) : (s.storeIfMade name made).2.Proper := by
  cases made with
  | none => exact proper
  | some h => exact proper.store name (stored h rfl)

theorem Proper.onHandle (proper : s.Proper) (name : String) {op : Handle → World → Answer × Handle × World}
    (kept : ∀ h w, h.Proper → (op h w).2.1.Proper) : (s.onHandle name op).2.Proper := by
  unfold Session.onHandle
  split
  · next h found => exact proper.set name (kept h s.world (proper _ (Keyed.mem_of_get? found)))
  · exact proper

theorem Proper.handleAnswer (proper : s.Proper) (name : String) (step : HandleStep) :
    (s.handleAnswer name step).2.Proper := by
  cases step with
  | new =>
    refine proper.store name ?_
    intro _
    rfl
  | fromStream r => exact proper.store name (Handle.proper_borrow r)
  | fromCapsule literal =>
    refine Proper.storeIfMade (s := { s with world := (s.world.make literal).2 }) proper name ?_
    intro h made
    unfold Handle.ofCapsule? at made
    split at made
    · split at made <;> cases made
      exact Handle.proper_borrow _
    · cases made
  | fromRaw raw =>
    simp only [Session.handleAnswer]
    split
    · next openFile _ =>
      refine Proper.storeIfMade (s := { s with world := (Handle.ofRaw openFile s.world).2 }) proper name ?_
      intro h made
      exact Handle.proper_ofRaw made
    · exact proper
  | openPath path remote => exact proper.onHandle name fun h w kept => kept.openPath path remote
  | openMemory start size => exact proper.onHandle name fun h w kept => kept.openMemory start size
  | attach r => exact proper.onHandle name fun h w _ => Handle.proper_borrow r
  | close =>
    refine proper.onHandle name fun h w kept => ?_
    show (h.close w).1.Proper
    rw [kept.close]
    intro _
    rfl
  | drop => exact proper.dropHandle name
  | copy target =>
    simp only [Session.handleAnswer]
    split
    · next h found => exact proper.store target (proper _ (Keyed.mem_of_get? found)).copy
    · exact proper
  | read step => exact proper.onHandle name fun h w kept => kept
  | view steps => exact proper.onHandle name fun h w kept => kept
  | call method args => exact proper.onHandle name fun h w kept => kept.callMethod method _

theorem Proper.step (proper : s.Proper) (step : SessionStep) : (s.step step).2.Proper := by
  cases step with
  | handle name step => exact proper.handleAnswer name step
  | raw name step =>
    have handles : (s.rawStep name step).2.handles = s.handles := (s.rawStep_keeps name step).1
    intro e he
    exact proper e (handles ▸ he)
  | calls =>
    simp only [Session.step, showCalls]
    split <;> exact proper
  | _ => exact proper

theorem Proper.run (proper : s.Proper) (steps : List SessionStep) : (s.run steps).2.Proper := by
  induction steps generalizing s with
  | nil => exact proper
  | cons step rest ih => exact ih (proper.step step)

theorem proper_start (world : World) (showsCalls : Bool) : (start world showsCalls).Proper := by
  intro e he
  cases he

/-- **What opening leaves behind**, whether it succeeds or not, for every handle at every point of a run that leaves the
table to handles. A path that cannot be opened leaves the handle empty and without a name, and what it had to release
released; memory that cannot be opened leaves the handle, every stream and every counter. A success is one new stream
for the handle to release, under the name that was opened, in place of what it had to release before. -/
theorem opening_exchanges (world : World) (showsCalls : Bool) (table : world.table = {}) (calls : world.calls = [])
    (log : world.log = []) (steps : List SessionStep) (spared : ∀ step ∈ steps, step.onTable = false) :
    let s := ((start world showsCalls).run steps).2
    let w := s.world
    (∀ name h, s.handles.get? name = some h →
      (∀ path remote,
        (∃ w', h.openPath path remote w = (.error (.openFailed path), ⟨.empty, ""⟩, w') ∧
          w.Exchanges h.holding [] w') ∨
        ∃ r w', h.openPath path remote w = (.ok (), ⟨.owned r, path⟩, w') ∧
          w.Exchanges h.holding [(.created, r)] w') ∧
      ∀ start size,
        (∃ w', h.openMemory start size w = (.error (.memoryUnavailable start size), h, w') ∧ w.Untouched w' ∧
          w.Exchanges [] [] w') ∨
        ∃ r w', h.openMemory start size w = (.ok (), ⟨.owned r, Handle.memoryName⟩, w') ∧
          w.Exchanges h.holding [(.created, r)] w') ∧
    ∀ openFile,
      (∃ w', Handle.ofRaw openFile w = (none, w') ∧ w.Untouched w' ∧ w.Exchanges [] [] w') ∨
      ∃ r w', Handle.ofRaw openFile w = (some ⟨.adapted r, Handle.rawName openFile⟩, w') ∧
        w.Exchanges [] [(.adapted, r)] w' := by
  intro s w
  have settled : s.Settled := (settled_start table calls log).run spared
  have proper : s.Proper := (proper_start world showsCalls).run steps
  have sound : w.table.Sound := settled.2.table
  refine ⟨?_, Handle.ofRaw_outcome sound⟩
  intro name h found
  have keeps : h.Keeps w := by
    intro x hx
    exact settled.custody.live_of_held name h x.1 x.2 found (Ownership.mem_holding.1 hx)
  refine ⟨?_, Handle.openMemory_outcome sound keeps⟩
  intro path remote
  have emptied : (h.close w).1 = ⟨.empty, ""⟩ := (proper _ (Keyed.mem_of_get? found)).close
  rw [← emptied]
  exact Handle.openPath_outcome sound keeps path remote

/-- A handle comes to own four bytes of memory. -/
def windowHeld : List SessionStep := [.handle "owner" .new, .handle "owner" (.openMemory 0 4)]

/-- More memory than a stream can have leaves it the handle's; no path at all does not. -/
theorem opening_exchanges_windowHeld :
    let w := ((start { env := { image := [⟨0, #[1, 2, 3, 4]⟩] } } true).run windowHeld).2.world
    let h : Handle := ⟨.owned .first, Handle.memoryName⟩
    (∃ w', h.openMemory 0 (2 ^ 63) w = (.error (.memoryUnavailable 0 (2 ^ 63)), h, w') ∧ w.Untouched w') ∧
      ∃ w', h.openPath "" false w = (.error (.openFailed ""), ⟨.empty, ""⟩, w') ∧
        w.Exchanges [(.created, .first)] [] w' ∧ w'.releaseCalls = [.closeCreated] := by
  intro w h
  have opening := opening_exchanges { env := { image := [⟨0, #[1, 2, 3, 4]⟩] } } true rfl rfl rfl windowHeld (by decide)
  obtain ⟨byPath, overMemory⟩ := opening.1 "owner" h (by rfl)
  have noPath : (h.openPath "" false w).1 = .error (.openFailed "") := by rfl
  have noMemory : (h.openMemory 0 (2 ^ 63) w).1 = .error (.memoryUnavailable 0 (2 ^ 63)) := by rfl
  constructor
  · rcases overMemory 0 (2 ^ 63) with ⟨w', failed, untouched, -⟩ | ⟨r, w', made, -⟩
    · exact ⟨w', failed, untouched⟩
    · cases noMemory.symm.trans (congrArg Prod.fst made)
  · rcases byPath "" false with ⟨w', failed, exchanged⟩ | ⟨r, w', made, -⟩
    · exact ⟨w', failed, exchanged, exchanged.calls⟩
    · cases noPath.symm.trans (congrArg Prod.fst made)

end Session
end ScriptStreams
