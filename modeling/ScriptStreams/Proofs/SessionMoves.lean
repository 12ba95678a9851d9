import ScriptStreams.Session.Script
import ScriptStreams.Proofs.Moves
import ScriptStreams.Proofs.Registry
/-!
# What sessions do to the world

The handles of a session together hold the streams that are still to be released
(`Session.holdings`). A step on a handle is a sequence of moves between the holdings before and after
it, whichever handles it stores, copies or drops on the way; a step on memory, files, shared open files or what can
be reserved only changes what surrounds the streams (`step_cases`).
-/
namespace ScriptStreams

/-- The step works on the stream table itself. -/
def SessionStep.onTable : SessionStep → Bool
  | .table _ => true
  | _ => false

namespace Answer

theorem ofNumber_snd (x : Except StreamError Int × World) : (ofNumber x).2 = x.2 := by
  obtain ⟨_ | _, w⟩ := x <;> rfl

theorem ofData_snd (x : Except StreamError (Option Bytes) × World) : (ofData x).2 = x.2 := by
  obtain ⟨_ | _ | _, w⟩ := x <;> rfl

theorem ofByte_snd (x : Except StreamError (Option UInt8) × World) : (ofByte x).2 = x.2 := by
  obtain ⟨_ | _ | _, w⟩ := x <;> rfl

end Answer

namespace Session

/-- Everything that handles of the session have to release. -/
def holdings (s : Session) : List Holding := s.handles.flatMap fun e => e.2.holding

/-- The holdings of one handle and of all others. -/
theorem holdings_perm {s : Session} (hd : s.handles.Distinct) {name : String} {h : Handle}
    (hh : s.handles.get? name = some h) :
    s.holdings.Perm (h.holding ++ (s.handles.erase name).flatMap fun e => e.2.holding) := by
  simpa [holdings] using (Keyed.perm_cons_erase hd hh).flatMap_right fun e => e.2.holding

theorem mem_holdings {s : Session} (hd : s.handles.Distinct) {x : Holding} :
    x ∈ s.holdings ↔ ∃ name h, s.handles.get? name = some h ∧ x ∈ h.holding := by
  simp only [holdings, List.mem_flatMap]
  constructor
  · rintro ⟨⟨name, h⟩, hm, hx⟩
    exact ⟨name, h, Keyed.get?_of_mem hd hm, hx⟩
  · rintro ⟨name, h, hh, hx⟩
    exact ⟨(name, h), Keyed.mem_of_get? hh, hx⟩

theorem distinct_dropHandle {s : Session} (hd : s.handles.Distinct) (name : String) :
    (s.dropHandle name).handles.Distinct := by
  unfold dropHandle
  split
  · exact hd.erase name
  · exact hd

theorem get?_dropHandle (s : Session) (name : String) : (s.dropHandle name).handles.get? name = none := by
  unfold dropHandle
  split
  · exact Keyed.get?_erase_self _ _
  · assumption

theorem moves_dropHandle {s : Session} (hd : s.handles.Distinct) (name : String) :
    Moves (s.holdings, s.world) ((s.dropHandle name).holdings, (s.dropHandle name).world) := by
  unfold dropHandle
  split
  · next h hh =>
    exact (Relation.ReflTransGen.single (.permute (holdings_perm hd hh))).trans (h.moves_drop s.world)
  · exact .refl

/-- A new handle takes its place after an older one of its name was dropped. -/
theorem moves_store {s : Session} (hd : s.handles.Distinct) (name : String) (h : Handle) :
    Moves (h.holding ++ s.holdings, s.world) ((s.store name h).holdings, (s.store name h).world) ∧
      (s.store name h).handles.Distinct := by
  have gone := Keyed.erase_of_get?_none (s.get?_dropHandle name)
  have stored : (s.store name h).holdings = h.holding ++ (s.dropHandle name).holdings := by
    simp [store, holdings, Keyed.set, gone]
  refine ⟨?_, (distinct_dropHandle hd name).set name h⟩
  rw [stored]
  show Moves _ (_, (s.dropHandle name).world)
  unfold dropHandle
  split
  · next old hold =>
    have first : (h.holding ++ s.holdings).Perm
        (old.holding ++ (h.holding ++ (s.handles.erase name).flatMap fun e => e.2.holding)) := by
      refine ((holdings_perm hd hold).append_left _).trans ?_
      rw [← List.append_assoc, ← List.append_assoc]
      exact List.perm_append_comm.append_right _
    exact (Relation.ReflTransGen.single (.permute first)).trans (old.moves_drop s.world)
  · exact .refl

theorem moves_onHandle {s : Session} (hd : s.handles.Distinct) (name : String)
    {op : Handle → World → Answer × Handle × World} (hop : Accounts op) :
    Moves (s.holdings, s.world) ((s.onHandle name op).2.holdings, (s.onHandle name op).2.world) ∧
      (s.onHandle name op).2.handles.Distinct := by
  unfold onHandle
  split
  · next h hh =>
    exact ⟨(Relation.ReflTransGen.single (.permute (holdings_perm hd hh))).trans (hop h s.world _), hd.set name _⟩
  · exact ⟨.refl, hd⟩

/-! ## Operations as steps -/

theorem accounts_of_leads {op : Handle → World → Answer × World}
    (hop : ∀ h held, Leads held (op h) fun _ => held) :
    Accounts fun h w => ((op h w).1, h, (op h w).2) := fun h w _ => hop h _ w

theorem leads_ofNumber {f : World → Except StreamError Int × World} {held : List Holding}
    (hf : Leads held f fun _ => held) : Leads held (fun w => Answer.ofNumber (f w)) fun _ => held := by
  intro w
  dsimp only
  rw [Answer.ofNumber_snd]
  exact hf w

theorem leads_ofData {f : World → Except StreamError (Option Bytes) × World} {held : List Holding}
    (hf : Leads held f fun _ => held) : Leads held (fun w => Answer.ofData (f w)) fun _ => held := by
  intro w
  dsimp only
  rw [Answer.ofData_snd]
  exact hf w

theorem leads_ofByte {f : World → Except StreamError (Option UInt8) × World} {held : List Holding}
    (hf : Leads held f fun _ => held) : Leads held (fun w => Answer.ofByte (f w)) fun _ => held := by
  intro w
  dsimp only
  rw [Answer.ofByte_snd]
  exact hf w

theorem leads_readStep (h : Handle) (step : ReadStep) (held : List Holding) :
    Leads held (fun w => step.perform h w) fun _ => held := by
  cases step with
  | seek offset whence => exact leads_ofNumber (h.leads_seek offset whence)
  | tell => exact leads_ofNumber h.leads_tell
  | size => exact leads_ofNumber h.leads_size
  | read n => exact leads_ofData (h.leads_read n)
  | readLine n => exact leads_ofData (h.leads_readLine n)
  | readCString n pos => exact leads_ofData (h.leads_readCString n pos)
  | readSwapped n bigEndian => exact leads_ofData (h.leads_readSwapped n bigEndian)
  | readByte => exact leads_ofByte h.leads_readByte
  | copyRange filePos start stop patchable => exact leads_ofNumber (h.leads_copyRange filePos start stop patchable)
  | toCapsule =>
    intro w
    have moved : Moves (held, w) (held, (h.toCapsule w).2) := h.leads_toCapsule w
    simp only [ReadStep.perform]
    split <;> next hc => rw [hc] at moved; exact moved
  | info => exact fun _ => .refl
  | describe => exact fun _ => .refl
  | describeView => exact fun _ => .refl

theorem leads_readSteps (h : Handle) (steps : List ReadStep) (held : List Holding) :
    Leads held (fun w => ReadStep.performAll h w steps) fun _ => held := by
  induction steps with
  | nil => exact fun _ => .refl
  | cons step rest ih => exact fun w => (leads_readStep h step held w).trans (ih _)

theorem leads_makeAll (literals : List Literal) (held : List Holding) :
    Leads held (fun w => w.makeAll literals) fun _ => held := by
  induction literals with
  | nil => exact fun _ => .refl
  | cons l rest ih => exact fun w => (Relation.ReflTransGen.single (.make l)).trans (ih _)

/-- **A step on a handle** leads from what the session's handles hold to what they hold afterwards, and
each name still has one handle. -/
theorem moves_handleAnswer {s : Session} (hd : s.handles.Distinct) (name : String) (step : HandleStep) :
    Moves (s.holdings, s.world) ((s.handleAnswer name step).2.holdings, (s.handleAnswer name step).2.world) ∧
      (s.handleAnswer name step).2.handles.Distinct := by
  cases step with
  | new => exact moves_store hd name {}
  | fromStream r => exact moves_store hd name (.borrow r)
  | fromCapsule literal =>
    have made : Moves (s.holdings, s.world) (s.holdings, (s.world.make literal).2) := .single (.make literal)
    simp only [handleAnswer]
    unfold storeIfMade
    split
    · next h hc =>
      have none_held : h.holding = [] := by
        unfold Handle.ofCapsule? at hc
        split at hc
        · split at hc <;> cases hc
          rfl
        · cases hc
      have stored := moves_store (s := { s with world := (s.world.make literal).2 }) hd name h
      rw [none_held] at stored
      exact ⟨made.trans stored.1, stored.2⟩
    · exact ⟨made, hd⟩
  | fromRaw raw =>
    simp only [handleAnswer]
    split
    · next openFile _ =>
      have adapted := Handle.moves_ofRaw openFile s.world s.holdings
      unfold storeIfMade
      split
      · next h hm =>
        rw [hm] at adapted
        have stored := moves_store (s := { s with world := (Handle.ofRaw openFile s.world).2 }) hd name h
        exact ⟨adapted.trans stored.1, stored.2⟩
      · next hm =>
        rw [hm] at adapted
        exact ⟨adapted, hd⟩
    · exact ⟨.refl, hd⟩
  | openPath path remote => exact moves_onHandle hd name (Handle.accounts_openPath path remote)
  | openMemory start size => exact moves_onHandle hd name (Handle.accounts_openMemory start size)
  | attach r => exact moves_onHandle hd name (Handle.accounts_attach r)
  | close => exact moves_onHandle hd name fun h w others => h.moves_close w others
  | drop => exact ⟨moves_dropHandle hd name, distinct_dropHandle hd name⟩
  | copy target =>
    simp only [handleAnswer]
    split
    · next h _ =>
      have stored := moves_store hd target h.copy
      rw [h.holding_copy] at stored
      exact stored
    · exact ⟨.refl, hd⟩
  | read step => exact moves_onHandle hd name (accounts_of_leads fun h => leads_readStep h step)
  | view steps => exact moves_onHandle hd name fun h w _ => leads_readSteps h.copy steps _ w
  | call method args =>
    refine moves_onHandle hd name fun h w others => ?_
    exact (leads_makeAll args _ w).trans (Handle.accounts_callMethod method _ h _ others)

/-- A step on a shared open file changes nothing but what surrounds the streams. -/
theorem rawStep_keeps (s : Session) (name : String) (step : RawStep) :
    (s.rawStep name step).2.handles = s.handles ∧ ∃ env, (s.rawStep name step).2.world = { s.world with env } := by
  have onRaw : ∀ f, (s.onRaw name f).2.handles = s.handles ∧
      ∃ env, (s.onRaw name f).2.world = { s.world with env } := by
    intro f
    unfold onRaw
    dsimp only
    split
    · exact ⟨rfl, s.world.env, rfl⟩
    · split
      · exact ⟨rfl, s.world.env, rfl⟩
      · exact ⟨rfl, _, rfl⟩
  cases step with
  | openPath path mode =>
    simp only [rawStep]
    split
    · exact ⟨rfl, _, rfl⟩
    · split
      · exact ⟨rfl, _, rfl⟩
      · exact ⟨rfl, s.world.env, rfl⟩
    · exact ⟨rfl, s.world.env, rfl⟩
  | pipe data => exact ⟨rfl, _, rfl⟩
  | share target =>
    simp only [rawStep]
    split <;> exact ⟨rfl, s.world.env, rfl⟩
  | drop => exact ⟨rfl, s.world.env, rfl⟩
  | holders =>
    simp only [rawStep]
    split <;> exact ⟨rfl, s.world.env, rfl⟩
  | read n => exact onRaw _
  | seek offset => exact onRaw _
  | write data => exact onRaw _

/-- **A step that spares the table** is a sequence of moves, or it changes what surrounds the streams and
nothing else that handles or the table could see. -/
theorem step_cases {s : Session} (hd : s.handles.Distinct) (step : SessionStep) (hs : step.onTable = false) :
    (s.step step).2.handles.Distinct ∧
      (Moves (s.holdings, s.world) ((s.step step).2.holdings, (s.step step).2.world) ∨
        (s.step step).2.handles = s.handles ∧
          ∃ env allocator, (s.step step).2.world = { s.world with env, allocator }) := by
  cases step with
  | table step => cases hs
  | handle name step =>
    obtain ⟨moved, distinct⟩ := moves_handleAnswer hd name step
    exact ⟨distinct, .inl moved⟩
  | space step =>
    refine ⟨hd, .inl ?_⟩
    cases step with
    | load r filePos start stop patchable => exact leads_loadSpace r filePos start stop patchable s.world
    | read addr n =>
      simp only [Session.step, SpaceStep.perform]
      split <;> exact .refl
    | fileOffset addr =>
      simp only [Session.step, SpaceStep.perform]
      split <;> exact .refl
    | spans => exact .refl
    | isEnabled addr => exact .refl
    | describe => exact .refl
  | memory step => exact ⟨hd, .inr ⟨rfl, _, _, rfl⟩⟩
  | file step => exact ⟨hd, .inr ⟨rfl, _, _, rfl⟩⟩
  | allocator a => exact ⟨hd, .inr ⟨rfl, _, _, rfl⟩⟩
  | raw name step =>
    obtain ⟨handles, env, world⟩ := s.rawStep_keeps name step
    refine ⟨?_, .inr ⟨handles, env, _, world⟩⟩
    show (s.rawStep name step).2.handles.Distinct
    rw [handles]
    exact hd
  | calls =>
    refine ⟨?_, .inl ?_⟩ <;> simp only [Session.step, showCalls] <;> split
    · exact hd
    · exact hd
    · exact .refl
    · exact .refl
  | heap => exact ⟨hd, .inl .refl⟩
  | windows => exact ⟨hd, .inl .refl⟩
  | isLocked => exact ⟨hd, .inl .refl⟩
  | pooled => exact ⟨hd, .inl .refl⟩
  | describeHost => exact ⟨hd, .inl .refl⟩
  | describeGuard => exact ⟨hd, .inl .refl⟩

/-- **What single moves keep**, whatever surrounds the streams, every step keeps that spares the table. -/
theorem step_preserves {P : List Holding × World → Prop} (move : ∀ a b, Move a b → P a → P b)
    (surroundings : ∀ held w env allocator, P (held, w) → P (held, { w with env, allocator })) {s : Session}
    (hd : s.handles.Distinct) (hp : P (s.holdings, s.world)) {step : SessionStep} (spared : step.onTable = false) :
    (s.step step).2.handles.Distinct ∧ P ((s.step step).2.holdings, (s.step step).2.world) := by
  obtain ⟨distinct, moved | ⟨handles, env, allocator, world⟩⟩ := step_cases hd step spared
  · exact ⟨distinct, moved.preserves move hp⟩
  · have same : (s.step step).2.holdings = s.holdings := by simp [holdings, handles]
    rw [same, world]
    exact ⟨distinct, surroundings _ _ _ _ hp⟩

end Session
end ScriptStreams
