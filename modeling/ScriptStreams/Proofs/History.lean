import ScriptStreams.Proofs.Pool
import ScriptStreams.Proofs.TableRuns
/-!
# What every history leaves behind

Whatever the steps of a session were, on handles, on the table or around them, the references that
handles hold were handed out before, so the next one is none of them, and the scratch pool stays sound, whatever
could be reserved in between (`Session.inOrder_run`).
-/
namespace ScriptStreams

/-- The streams to release were handed out before, and the scratch pool is sound. -/
structure Orderly (held : List Holding) (w : World) : Prop where
  issued : ∀ x ∈ held, x.2.number < w.table.next.number
  pool : w.pool.Sound

namespace Orderly

variable {held held' : List Holding} {w w' : World} {o : StreamOrigin} {r : StreamRef}

/-- Only the next reference and the pool matter. -/
theorem congr (h : Orderly held w) (next : w'.table.next = w.table.next) (pool : w'.pool = w.pool) :
    Orderly held w' :=
  ⟨next ▸ h.issued, pool ▸ h.pool⟩

theorem of_subset (h : Orderly held w) (hs : held' ⊆ held) : Orderly held' w :=
  ⟨fun x hx => h.issued x (hs hx), h.pool⟩

theorem register (h : Orderly held w) (o : StreamOrigin) (source : Source) :
    Orderly ((o, w.table.next) :: held) (w.register o source).2 := by
  refine ⟨fun x hx => ?_, h.pool⟩
  show x.2.number < w.table.next.number + 1
  rcases List.mem_cons.1 hx with rfl | hx
  · exact Nat.lt_succ_self _
  · exact Nat.lt_succ_of_lt (h.issued x hx)

theorem release (h : Orderly held w) (o : StreamOrigin) (r : StreamRef) : Orderly held (w.release o r) :=
  h.congr (w.table.next_release o r) rfl

theorem move {a b : List Holding × World} (m : Move a b) (h : Orderly a.1 a.2) : Orderly b.1 b.2 := by
  cases m with
  | permute hp => exact h.of_subset hp.symm.subset
  | lock _ => exact h.congr rfl rfl
  | note _ _ => exact h.congr rfl rfl
  | record _ => exact h.congr rfl rfl
  | make literal => exact h.congr rfl rfl
  | lend a n ceiling => exact ⟨h.issued, h.pool.acquire a n ceiling⟩
  | takeBack b => exact ⟨h.issued, h.pool.release b⟩
  | load space => exact h.congr rfl rfl
  | stream _ _ => exact h.congr (Table.next_update _ _ _) rfl
  | gain o source => exact h.register o source
  | lose o r => exact (h.of_subset (List.subset_cons_self _ _)).congr (Table.next_release _ o r) rfl

/-- **A step on the table itself** keeps it, whatever it registers for no handle or releases behind the
handles' backs. -/
theorem tableStep (h : Orderly held w) (rawNames : Keyed String Nat) (step : TableStep) :
    Orderly held (step.perform rawNames w).2 := by
  cases asked : step.release? with
  | none =>
    have grows : w.Grows (step.perform rawNames w).2 := TableStep.perform_grows asked
    exact ⟨fun x hx => Nat.lt_of_lt_of_le (h.issued x hx) grows.table.next_le, grows.pool ▸ h.pool⟩
  | some x =>
    rw [TableStep.perform_release asked]
    exact h.release x.1 x.2

end Orderly

namespace Session

/-- The handles have distinct names, and what they hold was handed out before. -/
def InOrder (s : Session) : Prop := s.handles.Distinct ∧ Orderly s.holdings s.world

theorem InOrder.step {s : Session} (h : s.InOrder) (step : SessionStep) : (s.step step).2.InOrder := by
  cases onTable : step.onTable with
  | true =>
    cases step with
    | table step => exact ⟨h.1, h.2.tableStep s.rawNames step⟩
    | _ => cases onTable
  | false =>
    exact step_preserves (P := fun a => Orderly a.1 a.2) (fun _ _ m h => h.move m) (fun _ _ _ _ h => h.congr rfl rfl)
      h.1 h.2 onTable

theorem InOrder.run {s : Session} (h : s.InOrder) (steps : List SessionStep) : (s.run steps).2.InOrder := by
  induction steps generalizing s with
  | nil => exact h
  | cons step rest ih => exact ih (h.step step)

/-- **Every run from a world without handles** leaves the handles' streams and the pool in order. -/
theorem inOrder_run {world : World} (showsCalls : Bool) (pool : world.pool.Sound) (steps : List SessionStep) :
    ((start world showsCalls).run steps).2.InOrder :=
  InOrder.run ⟨Keyed.distinct_nil, fun x hx => by simp [holdings, start] at hx, pool⟩ steps

/-- The next reference is new to every handle. -/
theorem InOrder.next_ne {s : Session} (hs : s.InOrder) {name : String} {h : Handle}
    (hh : s.handles.get? name = some h) :
    ∀ x ∈ h.holding, x.2 ≠ s.world.table.next := by
  intro x hx hn
  have := hs.2.issued x ((mem_holdings hs.1).2 ⟨name, h, hh, hx⟩)
  rw [hn] at this
  exact Nat.lt_irrefl _ this

end Session
end ScriptStreams
