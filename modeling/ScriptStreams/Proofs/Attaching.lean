import ScriptStreams.Proofs.Exchange
/-!
# Attaching

A handle that attaches a stream closes first what it has. That leaves the attached stream as it was, where it stood,
unless the handle was the one to release it: then the stream that it is to borrow is gone
(`Handle.attach_of_live`).
-/
namespace ScriptStreams

/-- **What any request for a release leaves of a live stream**: nothing if it is for that stream and its own kind of
release, and else the stream as it was. -/
theorem Table.entry?_release {t : Table} {r : StreamRef} {o : StreamOrigin} (live : t.origin? r = some o)
    (o' : StreamOrigin) (r' : StreamRef) :
    entry? (t.release o' r').2 r = if (o', r') = (o, r) then none else t.entry? r := by
  by_cases same : r' = r
  · subst same
    by_cases own : o' = o
    · subst own
      have gone := Table.origin?_release live o' r'
      rw [if_pos rfl] at gone ⊢
      simpa [Table.origin?] using gone
    · rw [Table.release_wrongOrigin live (Ne.symm own), if_neg]
      rintro ⟨⟩
      exact own rfl
  · rw [Table.entry?_release_ne t o' same, if_neg]
    rintro ⟨⟩
    exact same rfl

namespace World

variable {w w' : World} {r : StreamRef}

theorem size_congr (entry : w'.table.entry? r = w.table.entry? r) (env : w'.env = w.env) : w'.size r = w.size r := by
  unfold size
  rw [entry, env]

/-- A stream that is gone has neither size nor position. -/
theorem size_of_gone (gone : w.table.entry? r = none) : w.size r = -1 := by
  unfold size
  rw [gone]

theorem position_of_gone (gone : w.table.entry? r = none) : w.position r = -1 := by
  unfold position tell
  rw [withStream_of_gone gone]
  rfl

end World

/-! ## References in values -/

theorem StreamRef.ext_iff {r r' : StreamRef} : r = r' ↔ r.number = r'.number := by
  cases r
  cases r'
  simp

/-- A capsule of ours refers to the stream at its address, and a positive integer to the stream of its number. -/
theorem Method.refOf?_eq_some {v : Value} {r : StreamRef} :
    refOf? v = some r ↔
      (∃ c, v = .capsule c ∧ c.tag = Handle.capsuleTag ∧ c.address = r.number) ∨ v.asInt? = some (r.number : Int) := by
  have numbered : ∀ n : Int, StreamRef.ofNumber? n.toNat = some r ↔ n = r.number := by
    intro n
    have positive := r.number_pos
    unfold StreamRef.ofNumber?
    split
    · rw [Option.some.injEq, StreamRef.mk.injEq]
      omega
    · constructor
      · intro none_some
        cases none_some
      · omega
  cases v with
  | capsule c =>
    simp only [refOf?, Value.asInt?]
    split
    · next tagged => simp [tagged, StreamRef.ext_iff]
    · next other => simp [other]
  | none | bool | int | bytes | text => simp [refOf?, Value.asInt?, numbered]

namespace Handle

variable {h : Handle} {w : World} {r : StreamRef} {o : StreamOrigin}

theorem size_eq (ref : h.ref? = some r) (w : World) : (h.size w).1 = .ok (w.size r) := by
  unfold size
  rw [ref]
  rfl

theorem tell_eq (ref : h.ref? = some r) (w : World) : (h.tell w).1 = .ok (w.position r) := by
  have told : (w.atCall .tell).position r = w.position r := World.position_congr rfl rfl
  unfold tell
  rw [ref, ← told]
  rfl

/-- Closing asks for the release of what is held, and for no more. -/
theorem entry?_close (live : w.table.origin? r = some o) :
    (h.close w).2.table.entry? r = (if h.ownership = .ofOrigin o r then none else w.table.entry? r) ∧
      (h.close w).2.env = w.env := by
  obtain ⟨own, name⟩ := h
  cases own with
  | empty => cases o <;> exact ⟨rfl, rfl⟩
  | borrowed r' => cases o <;> exact ⟨rfl, rfl⟩
  | owned r' =>
    refine ⟨(Table.entry?_release live .created r').trans ?_, rfl⟩
    cases o <;> simp [Ownership.ofOrigin]
  | adapted r' =>
    refine ⟨(Table.entry?_release live .adapted r').trans ?_, rfl⟩
    cases o <;> simp [Ownership.ofOrigin]

/-- A script's call attaches what its argument refers to. -/
theorem callMethod_set_linput {v : Value} (refers : Method.refOf? v = some r) (h : Handle) (w : World) :
    h.callMethod "set_linput" [v] w = (.ok .none, h.attach r w) := by
  have requested : Request.ofCall "set_linput" [v] = .ok (.attach r) := by
    unfold Request.ofCall
    rw [show Method.named? "set_linput" = some .setLinput from Method.named?_name .setLinput]
    show Method.request .setLinput [v] = _
    simp only [Method.request, Method.streamArg, List.getElem?_cons_zero, Option.bind_some, refers]
    rfl
  simp only [callMethod, requested, perform]

/-- **What attaching does to what is attached.** Of a stream that is live when a handle attaches it, the handle is a
borrower afterwards, whether it attaches a reference or a script gives it a capsule or an integer. If the handle
was not the one to release the stream, that is as it was and stands where it stood. If it was, the handle closes it
first as it closes any stream, and borrows a reference that no longer refers to anything. -/
theorem attach_of_live (h : Handle) (w : World) (r : StreamRef) (o : StreamOrigin)
    (live : w.table.origin? r = some o) :
    let after := h.attach r w
    after.1 = ⟨.borrowed r, borrowedName r⟩ ∧
      (∀ v : Value,
        (∃ c, v = .capsule c ∧ c.tag = capsuleTag ∧ c.address = r.number) ∨ v.asInt? = some (r.number : Int) →
        h.callMethod "set_linput" [v] w = (.ok .none, after)) ∧
      (h.ownership ≠ .ofOrigin o r →
        after.2.table.isLive r = true ∧ after.2.table.entry? r = w.table.entry? r ∧
        ∀ g : Handle, g.ref? = some r →
          (after.1.size after.2).1 = (g.size w).1 ∧ (after.1.tell after.2).1 = (g.tell w).1) ∧
      (h.ownership = .ofOrigin o r →
        after.2.table.isLive r = false ∧
          (after.1.size after.2).1 = .ok (-1) ∧ (after.1.tell after.2).1 = .ok (-1)) := by
  intro after
  have borrows : after.1.ref? = some r := rfl
  obtain ⟨entry, env⟩ := h.entry?_close live
  refine ⟨rfl, ?_, ?_, ?_⟩
  · intro v refers
    exact callMethod_set_linput (Method.refOf?_eq_some.2 refers) h w
  · intro other
    rw [if_neg other] at entry
    refine ⟨?_, entry, ?_⟩
    · show ((h.close w).2.table.entry? r).isSome = true
      rw [entry]
      obtain ⟨e, found, -⟩ := Table.origin?_eq_some.1 live
      rw [found]
      rfl
    · intro g ref
      rw [size_eq borrows, size_eq ref, tell_eq borrows, tell_eq ref]
      exact ⟨congrArg _ (World.size_congr entry env), congrArg _ (World.position_congr entry env)⟩
  · intro own
    rw [if_pos own] at entry
    refine ⟨?_, ?_, ?_⟩
    · show ((h.close w).2.table.entry? r).isSome = false
      rw [entry]
      rfl
    · rw [size_eq borrows]
      exact congrArg _ (World.size_of_gone entry)
    · rw [tell_eq borrows]
      exact congrArg _ (World.position_of_gone entry)

/-- One handle owns four bytes of memory and has read the first. -/
def windowRead : Session :=
  ((Session.start { env := { image := [⟨0, #[1, 2, 3, 4]⟩] } } true).run
    [.handle "owner" .new, .handle "owner" (.openMemory 0 4), .handle "owner" (.read .readByte)]).2

/-- Another handle attaches them, by number in a script, and stands at the second byte. -/
theorem attach_of_live_windowRead :
    windowRead.world.table.origin? .first = some .created ∧
      let after := Handle.attach {} .first windowRead.world
      Handle.callMethod {} "set_linput" [.int 1] windowRead.world = (.ok .none, after) ∧
        after.2.table.isLive .first = true ∧ (after.1.tell after.2).1 = .ok 1 := by
  have live : windowRead.world.table.origin? .first = some .created := by rfl
  refine ⟨live, ?_⟩
  intro after
  obtain ⟨-, called, kept, -⟩ := attach_of_live {} windowRead.world .first .created live
  have owner : (Handle.mk (.owned .first) memoryName).ref? = some .first := by rfl
  obtain ⟨stays, -, same⟩ := kept (by decide)
  refine ⟨called (.int 1) (.inr rfl), stays, ?_⟩
  exact (same _ owner).2.trans (by rfl)

/-- **The owner that attaches its own stream** loses it. -/
theorem not_isLive_attach_own :
    let own : Handle := ⟨.owned .first, memoryName⟩
    let w := windowRead.world
    let after := own.attach .first w
    windowRead.handles.get? "owner" = some own ∧ w.table.isLive .first = true ∧
      (own.size w).1 = .ok 4 ∧ (own.tell w).1 = .ok 1 ∧
      after.1 = borrow .first ∧ after.2.table.isLive .first = false ∧
      (after.1.size after.2).1 = .ok (-1) ∧ (after.1.tell after.2).1 = .ok (-1) := by
  intro own w after
  refine ⟨?_, ?_, ?_, ?_, ?_, ?_, ?_, ?_⟩ <;> rfl

end Handle
end ScriptStreams
