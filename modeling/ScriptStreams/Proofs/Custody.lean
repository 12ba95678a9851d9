import ScriptStreams.Proofs.SessionMoves
/-!
# Who releases a stream

Along every run of handle operations the live streams of the table are, one for one, the streams that
handles have to release: an owned stream of one handle is a created one of the table, an adapted stream an
adapted one, and no stream is without such a handle or has two (`Session.Custody`). So no release
is ever refused, and when the last handle is gone every stream was released once
(`custody_of_run`). The references that borrowing handles carry do not matter, dead ones included.
-/
namespace ScriptStreams

/-- What a handle has that must release a stream of this origin. -/
def Ownership.ofOrigin : StreamOrigin → StreamRef → Ownership
  | .created, r => .owned r
  | .adapted, r => .adapted r

theorem Ownership.mem_holding {own : Ownership} {o : StreamOrigin} {r : StreamRef} :
    (o, r) ∈ own.holding ↔ own = .ofOrigin o r := by
  cases own <;> cases o <;> simp [holding, ofOrigin, eq_comm]

/-- Nothing but refused releases is logged as one of these. -/
def Event.isRefusal : Event → Bool
  | wrongOrigin | unknownStream => true
  | _ => false

/-- What a call for a release comes to if it is granted. -/
theorem World.surrender_of_released {w : World} {o : StreamOrigin} {r : StreamRef} {t : Table}
    (h : w.table.release o r = (.released, t)) :
    ∃ e : Event, e.isRefusal = false ∧ w.surrender o r =
      ({ w with table := t, calls := ⟨o.releaseCall, w.lock.locked⟩ :: w.calls } : World).note e := by
  cases o with
  | created =>
    refine ⟨.streamClosed, rfl, ?_⟩
    simp only [surrender, native, release, h, note]
  | adapted =>
    refine ⟨.adaptationTornDown, rfl, ?_⟩
    simp only [surrender, native, release, h, note]

/-! ## The balance of holdings and table -/

/-- `held` lists the live streams, each once and with its origin, and every call for a release so far
was one release. -/
structure Balanced (held : List Holding) (w : World) : Prop where
  table : w.table.Sound
  once : (held.map (·.2)).Nodup
  live : ∀ o r, (o, r) ∈ held ↔ w.table.origin? r = some o
  closed : w.calls.countP (·.primitive = .closeCreated) = w.table.closed
  tornDown : w.calls.countP (·.primitive = .teardownAdapted) = w.table.tornDown
  unrefused : ∀ e ∈ w.log, e.isRefusal = false

namespace Balanced

variable {held held' : List Holding} {w w' : World}

/-- Only the table, the calls and the log matter. -/
theorem congr (h : Balanced held w) (ht : w'.table = w.table) (hc : w'.calls = w.calls) (hl : w'.log = w.log) :
    Balanced held w' :=
  ⟨ht ▸ h.table, h.once, ht ▸ h.live, by rw [ht, hc]; exact h.closed, by rw [ht, hc]; exact h.tornDown,
    hl ▸ h.unrefused⟩

theorem perm (h : Balanced held w) (hp : held.Perm held') : Balanced held' w :=
  { h with
    once := (hp.map _).nodup h.once
    live := fun o r => (hp.mem_iff.symm).trans (h.live o r) }

theorem note (h : Balanced held w) {e : Event} (he : e.isRefusal = false) : Balanced held (w.note e) :=
  { h with
    unrefused := fun e' he' => by
      rcases List.mem_cons.1 he' with rfl | he'
      · exact he
      · exact h.unrefused e' he' }

theorem update (h : Balanced held w) (r : StreamRef) (source : Source) (env : Environment) :
    Balanced held { w with env := env, table := w.table.update r source } := by
  have counters : (w.table.update r source).closed = w.table.closed ∧
      (w.table.update r source).tornDown = w.table.tornDown := by
    unfold Table.update
    split <;> exact ⟨rfl, rfl⟩
  exact { h with
    table := h.table.update r source
    live := fun o r' => by rw [h.live o r']; simp only [Table.origin?_update]
    closed := h.closed.trans counters.1.symm
    tornDown := h.tornDown.trans counters.2.symm }

theorem register (h : Balanced held w) (o : StreamOrigin) (source : Source) :
    Balanced ((o, w.table.next) :: held) (w.register o source).2 := by
  have unused : w.table.next ∉ held.map (·.2) := by
    intro hm
    obtain ⟨⟨o', r⟩, hm, rfl⟩ := List.mem_map.1 hm
    have := (h.live o' _).1 hm
    rw [h.table.next_fresh] at this
    cases this
  have registered : Balanced ((o, w.table.next) :: held) { w with table := (w.table.register o source).2 } := by
    refine ⟨h.table.register o source, List.nodup_cons.2 ⟨unused, h.once⟩, fun o' r => ?_, h.closed, h.tornDown,
      h.unrefused⟩
    rw [Table.origin?_register, List.mem_cons, Prod.mk.injEq]
    split
    · next hr =>
      subst hr
      have : (o', w.table.next) ∉ held := fun hm => unused (List.mem_map.2 ⟨_, hm, rfl⟩)
      simp [this, eq_comm]
    · next hr => simp [h.live, Ne.symm hr]
  exact registered.note rfl

/-- **The call for a release of a held stream** releases it. -/
theorem surrender {o : StreamOrigin} {r : StreamRef} (h : Balanced ((o, r) :: held) w) :
    Balanced held (w.surrender o r) := by
  have live : w.table.origin? r = some o := (h.live o r).1 (by simp)
  have sound := h.table.release o r
  have released := Table.release_released live
  rw [released] at sound
  obtain ⟨unheld, once⟩ := List.nodup_cons.1 h.once
  have closed := h.closed
  have tornDown := h.tornDown
  have listed : ∀ o' r', (o', r') ∈ held ↔
      ({ w.table with entries := w.table.entries.erase r }.countRelease o).origin? r' = some o' := by
    intro o' r'
    rw [Table.origin?_countRelease, Table.origin?_erase]
    split
    · next hr =>
      subst hr
      have : (o', r) ∉ held := fun hm => unheld (List.mem_map.2 ⟨_, hm, rfl⟩)
      simp [this]
    · next hr =>
      rw [← h.live o' r', List.mem_cons, Prod.mk.injEq]
      simp [Ne.symm hr]
  obtain ⟨e, quiet, surrendered⟩ := World.surrender_of_released released
  have kept : Balanced held { w with
      table := { w.table with entries := w.table.entries.erase r }.countRelease o
      calls := ⟨o.releaseCall, w.lock.locked⟩ :: w.calls } := by
    refine ⟨sound, once, listed, ?_, ?_, h.unrefused⟩
    · cases o <;> simpa [Table.countRelease, StreamOrigin.releaseCall] using closed
    · cases o <;> simpa [Table.countRelease, StreamOrigin.releaseCall] using tornDown
  rw [surrendered]
  exact kept.note quiet

/-- **Every move keeps the balance.** -/
theorem move {a b : List Holding × World} (m : Move a b) (h : Balanced a.1 a.2) : Balanced b.1 b.2 := by
  cases m with
  | permute hp => exact h.perm hp
  | lock _ => exact h.congr rfl rfl rfl
  | @note _ _ e rightOrigin known =>
    have quiet : e.isRefusal = false := by cases e <;> simp_all [Event.isRefusal]
    exact h.note quiet
  | @record _ _ p hp =>
    have other : p ≠ .closeCreated ∧ p ≠ .teardownAdapted := by
      constructor <;> rintro rfl <;> cases hp
    exact { h with
      closed := by simpa [other.1] using h.closed
      tornDown := by simpa [other.2] using h.tornDown }
  | make literal => exact h.congr rfl rfl rfl
  | lend a n ceiling => exact h.congr rfl rfl rfl
  | takeBack b => exact h.congr rfl rfl rfl
  | load space => exact h.congr rfl rfl rfl
  | stream _ _ => exact h.update _ _ _
  | gain o source => exact h.register o source
  | lose o r => exact h.surrender

theorem moves {a b : List Holding × World} (m : Moves a b) (h : Balanced a.1 a.2) : Balanced b.1 b.2 :=
  m.preserves (P := fun a => Balanced a.1 a.2) (fun _ _ m h => h.move m) h

theorem length_entries (h : Balanced held w) : w.table.entries.length = held.length := by
  have same : (w.table.entries.map (·.1)).Perm (held.map (·.2)) := by
    refine (List.perm_ext_iff_of_nodup h.table.distinct h.once).2 fun r => ?_
    constructor
    · intro hr
      obtain ⟨⟨_, e⟩, he, rfl⟩ := List.mem_map.1 hr
      have : w.table.origin? _ = some e.origin :=
        Table.origin?_eq_some.2 ⟨e, Keyed.get?_of_mem h.table.distinct he, rfl⟩
      exact List.mem_map.2 ⟨_, (h.live _ _).2 this, rfl⟩
    · intro hr
      obtain ⟨⟨o, _⟩, hm, rfl⟩ := List.mem_map.1 hr
      obtain ⟨e, he, -⟩ := Table.origin?_eq_some.1 ((h.live o _).1 hm)
      exact List.mem_map.2 ⟨_, Keyed.mem_of_get? he, rfl⟩
  simpa using same.length_eq

end Balanced

/-! ## Sessions -/

namespace Session

/-- Live streams and the handles that must release them belong together one for one, and every release
that a handle called for took place. -/
structure Custody (s : Session) : Prop where
  /-- What a handle must release is live and of the origin that its release is for. -/
  live_of_held : ∀ name h o r, s.handles.get? name = some h → h.ownership = .ofOrigin o r →
    s.world.table.origin? r = some o
  /-- Each live stream is for exactly one handle to release. -/
  held_once : ∀ o r, s.world.table.origin? r = some o →
    ∃! name, ∃ h, s.handles.get? name = some h ∧ h.ownership = .ofOrigin o r
  closed : s.countCalls .closeCreated = s.world.table.stats.closed
  tornDown : s.countCalls .teardownAdapted = s.world.table.stats.tornDown
  unrefused : ∀ e ∈ s.world.log, e ≠ .wrongOrigin ∧ e ≠ .unknownStream
  balance : s.world.table.stats.opened = s.world.table.stats.releases + s.world.table.stats.live

/-- The handles have distinct names and their holdings are balanced. -/
def Settled (s : Session) : Prop := s.handles.Distinct ∧ Balanced s.holdings s.world

theorem Settled.unique {s : Session} (hs : s.Settled) {name name' : String} {h h' : Handle} {o : StreamOrigin}
    {r : StreamRef} (hh : s.handles.get? name = some h) (hh' : s.handles.get? name' = some h')
    (ho : h.ownership = .ofOrigin o r) (ho' : h'.ownership = .ofOrigin o r) : name = name' := by
  by_contra hne
  have first : (o, r) ∈ h.holding := Ownership.mem_holding.2 ho
  have second : (o, r) ∈ (s.handles.erase name).flatMap fun e => e.2.holding := by
    refine List.mem_flatMap.2 ⟨(name', h'), Keyed.mem_of_get? ?_, Ownership.mem_holding.2 ho'⟩
    rw [Keyed.get?_erase_ne _ hne, hh']
  -- the reference would stand twice in a list without repetitions
  have once := ((holdings_perm hs.1 hh).map (·.2)).nodup hs.2.once
  rw [List.map_append, List.nodup_append] at once
  exact once.2.2 r (List.mem_map.2 ⟨_, first, rfl⟩) r (List.mem_map.2 ⟨_, second, rfl⟩) rfl

theorem Settled.custody {s : Session} (hs : s.Settled) : s.Custody where
  live_of_held name h o r hh ho :=
    (hs.2.live o r).1 ((mem_holdings hs.1).2 ⟨name, h, hh, Ownership.mem_holding.2 ho⟩)
  held_once o r hl := by
    obtain ⟨name, h, hh, hm⟩ := (mem_holdings hs.1).1 ((hs.2.live o r).2 hl)
    have ho := Ownership.mem_holding.1 hm
    refine ⟨name, ⟨h, hh, ho⟩, ?_⟩
    rintro name' ⟨h', hh', ho'⟩
    exact hs.unique hh' hh ho' ho
  closed := hs.2.closed
  tornDown := hs.2.tornDown
  unrefused e he := by
    have := hs.2.unrefused e he
    constructor <;> rintro rfl <;> cases this
  balance := hs.2.table.balance

/-- With no handle left there is no stream left. -/
theorem Settled.live_eq_zero {s : Session} (hs : s.Settled) (h : s.handles = []) : s.world.table.stats.live = 0 := by
  have none_held : s.holdings = [] := by simp [holdings, h]
  exact hs.2.length_entries.trans (by rw [none_held]; rfl)

theorem settled_start {world : World} {showsCalls : Bool} (table : world.table = {}) (calls : world.calls = [])
    (log : world.log = []) : (start world showsCalls).Settled := by
  refine ⟨Keyed.distinct_nil, ?_⟩
  refine Balanced.mk ?_ List.nodup_nil (fun o r => ?_) ?_ ?_ ?_ <;> simp only [start, table, calls, log]
  · exact Table.sound_empty
  · simp [holdings, Table.origin?, Table.entry?, Keyed.get?]
  · rfl
  · rfl
  · simp

theorem Settled.step {s : Session} (hs : s.Settled) {step : SessionStep} (spared : step.onTable = false) :
    (s.step step).2.Settled :=
  step_preserves (P := fun a => Balanced a.1 a.2) (fun _ _ m h => h.move m) (fun _ _ _ _ h => h.congr rfl rfl rfl)
    hs.1 hs.2 spared

theorem Settled.run {s : Session} (hs : s.Settled) {steps : List SessionStep}
    (spared : ∀ step ∈ steps, step.onTable = false) : (s.run steps).2.Settled := by
  induction steps generalizing s with
  | nil => exact hs
  | cons step rest ih =>
    exact ih (hs.step (spared step (by simp))) fun step' h => spared step' (by simp [h])

theorem Settled.dropHandle {s : Session} (hs : s.Settled) (name : String) : (s.dropHandle name).Settled :=
  ⟨distinct_dropHandle hs.1 name, hs.2.moves (moves_dropHandle hs.1 name)⟩

theorem Settled.dropAll {s : Session} (hs : s.Settled) : s.dropAll.Settled := by
  unfold Session.dropAll
  generalize s.names = names
  induction names generalizing s with
  | nil => exact hs
  | cons name rest ih => exact ih (hs.dropHandle name)

/-- A name that is not dropped here was not there or is still there. -/
theorem get?_foldl_dropHandle (names : List String) (s : Session) (name : String) :
    (names.foldl Session.dropHandle s).handles.get? name =
      if name ∈ names then none else s.handles.get? name := by
  induction names generalizing s with
  | nil => simp
  | cons first rest ih =>
    have dropped : (s.dropHandle first).handles.get? name =
        if first = name then none else s.handles.get? name := by
      unfold Session.dropHandle
      split
      · exact Keyed.get?_erase _ _ _
      · next hn => split <;> simp_all
    rw [List.foldl_cons, ih, dropped]
    by_cases hf : first = name
    · simp [hf]
    · simp [hf, Ne.symm hf]

theorem handles_dropAll (s : Session) : s.dropAll.handles = [] := by
  refine List.eq_nil_iff_forall_not_mem.2 fun e he => ?_
  have gone := get?_foldl_dropHandle s.names s e.1
  have listed : s.handles.get? e.1 = none ∨ e.1 ∈ s.names := by
    cases hh : s.handles.get? e.1 with
    | none => exact Or.inl rfl
    | some h =>
      refine Or.inr (List.mem_mergeSort.2 ?_)
      exact List.mem_map.2 ⟨_, Keyed.mem_of_get? hh, rfl⟩
  have missing : s.dropAll.handles.get? e.1 = none := by
    rw [Session.dropAll, gone]
    rcases listed with h | h <;> simp [h]
  rw [Keyed.get?, Option.map_eq_none_iff, List.find?_eq_none] at missing
  exact missing e he (by simp)

/-- **Exactly one release for every stream.** Let handles be made, opened, attached, copied, viewed, read,
called by scripts, closed and dropped in any order and under any names, with any references, while files,
memory and shared open files change around them; only the table is left to the handles. Then at
every point of the run streams and handles belong together one for one, and once all handles are
dropped every stream that was opened has been released. -/
theorem custody_of_run (world : World) (showsCalls : Bool) (table : world.table = {}) (calls : world.calls = [])
    (log : world.log = []) (steps : List SessionStep) (spared : ∀ step ∈ steps, step.onTable = false) :
    let s := ((start world showsCalls).run steps).2
    s.Custody ∧
      (s.handles = [] → s.world.table.stats.live = 0 ∧ s.world.table.stats.opened = s.world.table.stats.releases) ∧
      s.dropAll.Custody ∧ s.dropAll.handles = [] ∧
      s.finish.stats.live = 0 ∧ s.finish.stats.opened = s.finish.stats.releases := by
  intro s
  have settled : s.Settled := (settled_start table calls log).run spared
  have dropped := settled.dropAll
  have emptied := dropped.live_eq_zero s.handles_dropAll
  have final := dropped.custody.balance
  refine ⟨settled.custody, fun none_left => ?_, dropped.custody, s.handles_dropAll, emptied, ?_⟩
  · have live := settled.live_eq_zero none_left
    have balance := settled.custody.balance
    rw [live] at balance
    exact ⟨live, balance⟩
  · rw [emptied] at final
    exact final

/-- Four bytes of memory, opened through one handle and used and closed under a copy's eyes. -/
def borrowedWindow : List SessionStep :=
  [.handle "owner" .new, .handle "owner" (.openMemory 0 4), .handle "owner" (.copy "alias"),
    .handle "alias" (.read (.read 2)), .handle "owner" .close, .handle "alias" (.read .tell),
    .handle "alias" (.attach ⟨7, by decide⟩), .memory (.unmap 0)]

theorem custody_of_borrowedWindow :
    (∀ step ∈ borrowedWindow, step.onTable = false) ∧
      let s := ((start { env := { image := [⟨0, #[1, 2, 3, 4]⟩] } } true).run borrowedWindow).2
      s.Custody ∧
        (s.handles = [] → s.world.table.stats.live = 0 ∧ s.world.table.stats.opened = s.world.table.stats.releases) ∧
        s.dropAll.Custody ∧ s.dropAll.handles = [] ∧
        s.finish.stats.live = 0 ∧ s.finish.stats.opened = s.finish.stats.releases :=
  ⟨by decide, custody_of_run _ true rfl rfl rfl borrowedWindow (by decide)⟩

end Session
end ScriptStreams
