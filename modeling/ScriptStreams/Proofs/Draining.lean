import ScriptStreams.Proofs.DeviceAnswers
import ScriptStreams.Proofs.Spans
/-!
# Draining a file

A handle on a file that asks for piece after piece gets the spans that the rest of the file is cut into, one a call, and
then nothing, and stands behind the spans it was given (`Handle.drain_pieces`). Lines are such pieces
(`Handle.drain_lines`).
-/
namespace ScriptStreams

/-! ## Files behind a reference -/

/-- Seeks and reads of a file move its position and nothing else. -/
theorem Source.reach_file {id : FileId} {pos : Nat} {env : Environment} {x : Source × Environment}
    (reached : device.Reach (.file id pos, env) x) : ∃ pos', x = (.file id pos', env) := by
  refine reached.preserves (P := fun x => ∃ pos', x = (.file id pos', env)) ?_ ?_ ⟨pos, rfl⟩
  · rintro offset whence _ ⟨pos', rfl⟩
    simp only [device, Source.seek]
    split
    · exact ⟨_, rfl⟩
    · exact ⟨pos', rfl⟩
  · rintro n _ ⟨pos', rfl⟩
    exact ⟨_, rfl⟩

namespace World

variable {r : StreamRef} {id : FileId} {env : Environment} {v w : World} {c : Cursor}

theorem Stands.unique {x y : Source × Environment} (h : Stands r w x) (h' : Stands r w y) : x = y := by
  obtain ⟨⟨o, entry⟩, surroundings⟩ := h
  obtain ⟨⟨o', entry'⟩, surroundings'⟩ := h'
  rw [entry] at entry'
  injection entry' with same
  injection same with _ source
  exact Prod.ext source (surroundings.symm.trans surroundings')

/-- The stream of `r` is a file with the bytes of the cursor and stands where that stands, and scratch buffers are
granted as in `v`. -/
structure OnFile (r : StreamRef) (id : FileId) (env : Environment) (v w : World) (c : Cursor) : Prop where
  stands : Stands r w (.file id c.pos, env)
  content : (env.files.content id).toList = c.content
  lends : v.LendsAs w

/-- **A step on a file** is answered as the reference answers it, and moves the file as the reference moves. -/
theorem OnFile.perform {h : Handle} (ref : h.ref? = some r) (onFile : OnFile r id env v w c) {step : ReadStep}
    (plain : step.onStream = true) :
    Agree (OnFile r id env v) (step.perform h w) (c.answer v.grants step) := by
  have serves : Serves r v w c := ⟨⟨_, onFile.stands, onFile.content, rfl⟩, onFile.lends⟩
  have amid : Amid r v w.table.entry? w (.file id c.pos, env) := ⟨onFile.stands, fun _ _ => rfl, onFile.lends⟩
  obtain ⟨same, ⟨x, stands, shows⟩, lends⟩ := Handle.agree_perform ref serves plain
  obtain ⟨-, after⟩ := Handle.agree_answer ref amid plain
  obtain ⟨pos, moved⟩ := Source.reach_file (Source.device.reach_answer v.grants (.file id c.pos, env) step)
  -- the state that the file is led to is the one that shows the cursor
  obtain rfl : x = (.file id pos, env) := (stands.unique after.stands).trans moved
  obtain ⟨content, rfl⟩ := shows
  exact ⟨same, stands, content, lends⟩

end World

/-! ## Pieces -/

namespace Cursor

variable {last : UInt8} {limit : Nat} {c : Cursor}

theorem piece_of_nil (ended : c.rest = []) : c.piece last limit = (none, c) := by
  simp [piece, ended, through_nil, advance_zero]

theorem piece_of_cons {span rest : Bytes} (left : c.rest = span ++ rest) (some_taken : span ≠ [])
    (taken : (through last (span ++ rest)).take limit = span) :
    c.piece last limit = (some span.untilNul, c.advance span.length) := by
  unfold piece
  dsimp only
  rw [left, taken, if_neg some_taken]

theorem piece_eq_none_iff (positive : 0 < limit) : (c.piece last limit).1 = none ↔ c.rest = [] := by
  by_cases ended : c.rest = []
  · simp [piece_of_nil ended, ended]
  · have some_taken : (through last c.rest).take limit ≠ [] := take_through_ne_nil positive ended
    simp only [piece, if_neg some_taken, reduceCtorEq, ended]

theorem ofData_eq (x : Option Bytes × Cursor) : ofData x = (Answer.ofBytes? x.1, x.2) := by
  obtain ⟨_ | _, c⟩ := x <;> rfl

theorem answer_readLine {grants : Nat → Bool} {n : Nat} (granted : grants n = true) (c : Cursor) :
    c.answer grants (.readLine n) = ofData (c.piece Bytes.newline (n - 1)) := by
  simp only [answer, withScratch, if_pos granted]

theorem answer_readCString {grants : Nat → Bool} {n : Nat} (granted : grants (n + Handle.scratchGuard) = true)
    (positive : n ≠ 0) (c : Cursor) : c.answer grants (.readCString n none) = ofData (c.piece 0 (n - 1)) := by
  have granted' : grants (n + 5) = true := granted
  simp only [answer, withScratch, if_pos granted', string, if_neg positive, Option.getD_none, if_pos]

end Cursor

theorem Answer.ofBytes?_eq_nothing {data : Option Bytes} : ofBytes? data = .nothing ↔ data = none := by
  cases data <;> simp [ofBytes?]

theorem ReadStep.performAll_cons (h : Handle) (w : World) (step : ReadStep) (rest : List ReadStep) :
    performAll h w (step :: rest) =
      ((step.perform h w).1 :: (performAll h (step.perform h w).2 rest).1,
        (performAll h (step.perform h w).2 rest).2) := rfl

namespace Handle

variable {h : Handle} {r : StreamRef} {id : FileId} {env : Environment} {last : UInt8} {limit : Nat} {step : ReadStep}

/-- **Piece after piece.** Each of `k` calls is answered by the next span, up to its first NUL, or by nothing when there
is none left, and the file stands behind the spans that were given. -/
theorem drain_pieces (ref : h.ref? = some r) (plain : step.onStream = true)
    {v w : World} (reads : ∀ c : Cursor, c.answer v.grants step = Cursor.ofData (c.piece last limit)) {c : Cursor}
    {spans : List Bytes} (onFile : World.OnFile r id env v w c) (cut : Cursor.Cut last limit c.rest spans) (k : Nat) :
    Agree (World.OnFile r id env v) (ReadStep.performAll h w (List.replicate k step))
      ((List.range k).map fun i => Answer.ofBytes? (spans.map Bytes.untilNul)[i]?,
        c.advance (spans.take k).flatten.length) := by
  induction k generalizing w c spans with
  | zero => exact ⟨rfl, onFile⟩
  | succ k ih =>
    obtain ⟨same, after⟩ := onFile.perform ref plain
    rw [reads, Cursor.ofData_eq] at same after
    rw [List.replicate_succ, ReadStep.performAll_cons, List.range_succ_eq_map, List.map_cons, List.map_map]
    generalize left : c.rest = bs at cut
    cases cut with
    | nil =>
      rw [Cursor.piece_of_nil left] at same after
      obtain ⟨answers, later⟩ := ih after (left ▸ Cursor.Cut.nil)
      refine ⟨congrArg₂ List.cons same answers, ?_⟩
      simpa using later
    | @cons span rest spans some_taken taken cut =>
      rw [Cursor.piece_of_cons left some_taken taken] at same after
      have behind : (c.advance span.length).rest = rest := by simp [Cursor.rest_advance, left]
      obtain ⟨answers, later⟩ := ih after (behind ▸ cut)
      refine ⟨congrArg₂ List.cons same answers, ?_⟩
      simpa [Cursor.advance_advance] using later

/-- **Lines until there are no more.** Calls that read lines of fewer than `n` bytes from the beginning of a file on
cut it into spans, at most one for each byte: every span stops at the first place where it may, behind a line feed,
at `n - 1` bytes or where the file ends. The calls answer with the spans, each up to its first NUL, in order and then
with nothing, which is the answer just when the file stands at its end. So the answers make up the file if and only
if there is no NUL in it. -/
theorem drain_lines {w : World} {n : Nat} (ref : h.ref? = some r) (stands : World.Stands r w (.file id 0, env))
    (pool : w.pool.Sound) (granted : w.grants n = true) (long : 2 ≤ n) :
    let content := (env.files.content id).toList
    ∃ spans : List Bytes,
      spans.flatten = content ∧ (∀ span ∈ spans, span ≠ []) ∧ spans.length ≤ content.length ∧
      (∀ before span later, spans = before ++ span :: later →
        Cursor.FirstStop Bytes.newline (n - 1) (span :: later).flatten span) ∧
      (∀ k,
        let after := ReadStep.performAll h w (List.replicate k (.readLine n))
        after.1 = (List.range k).map (fun i => Answer.ofBytes? (spans.map Bytes.untilNul)[i]?) ∧
          World.Stands r after.2 (.file id (spans.take k).flatten.length, env) ∧
          (((ReadStep.readLine n).perform h after.2).1 = .nothing ↔ (spans.take k).flatten.length = content.length)) ∧
      ((spans.map Bytes.untilNul).flatten = content ↔ 0 ∉ content) := by
  intro content
  have start : World.OnFile r id env w w ⟨content, 0⟩ := ⟨stands, rfl, .refl pool⟩
  have reads := Cursor.answer_readLine granted
  have positive : 0 < n - 1 := by omega
  obtain ⟨spans, cut⟩ := Cursor.cut_exists Bytes.newline positive content
  have whole : spans.flatten = content := cut.flatten
  refine ⟨spans, whole, cut.ne_nil, cut.length_le, cut.firstStop, ?_, ?_⟩
  · intro k after
    obtain ⟨answers, drained⟩ := drain_pieces ref rfl reads start cut k
    have within : (spans.take k).flatten.length ≤ content.length := by
      have split := congrArg (fun l => (List.flatten l).length) (List.take_append_drop k spans)
      simp only [List.flatten_append, List.length_append, whole] at split
      omega
    have onFile : World.OnFile r id env w after.2 ⟨content, (spans.take k).flatten.length⟩ := by
      simpa only [Cursor.advance, Nat.zero_add] using drained
    have next : ((ReadStep.readLine n).perform h after.2).1 = _ := (onFile.perform ref rfl).1
    refine ⟨answers, onFile.stands, ?_⟩
    rw [next, reads, Cursor.ofData_eq, Answer.ofBytes?_eq_nothing, Cursor.piece_eq_none_iff positive, Cursor.rest,
      List.drop_eq_nil_iff]
    show content.length ≤ (spans.take k).flatten.length ↔ (spans.take k).flatten.length = content.length
    omega
  · rw [← whole]
    exact Cursor.flatten_untilNul_eq_iff spans

/-- A file with a line and a NUL behind it, opened. -/
def nulBehindLine : World where
  env := { files := { contents := [(0, #[104, 105, 10, 0, 33])], next := 1 } }
  table := { entries := [(.first, ⟨.created, .file 0 0⟩)], next := StreamRef.first.next, opened := 1 }

/-- The byte behind the NUL is in no answer. -/
theorem drain_lines_nulBehindLine :
    nulBehindLine.grants 4 = true ∧
      let h : Handle := ⟨.owned .first, "a"⟩
      ∃ spans : List Bytes, spans.flatten = [104, 105, 10, 0, 33] ∧
        (ReadStep.performAll h nulBehindLine (List.replicate 3 (.readLine 4))).1 =
          [Answer.ofBytes? (spans.map Bytes.untilNul)[0]?, Answer.ofBytes? (spans.map Bytes.untilNul)[1]?,
            Answer.ofBytes? (spans.map Bytes.untilNul)[2]?] ∧
        (spans.map Bytes.untilNul).flatten ≠ [104, 105, 10, 0, 33] := by
  have granted : nulBehindLine.grants 4 = true := by decide
  refine ⟨granted, ?_⟩
  intro h
  have stands : World.Stands .first nulBehindLine (.file 0 0, nulBehindLine.env) := ⟨⟨.created, rfl⟩, rfl⟩
  have ref : h.ref? = some .first := rfl
  obtain ⟨spans, whole, -, -, -, answers, complete⟩ := drain_lines ref stands Scratch.Pool.sound_empty granted (by decide)
  refine ⟨spans, whole, (answers 3).1, ?_⟩
  intro all
  exact absurd (complete.1 all) (by decide)

end Handle
end ScriptStreams
