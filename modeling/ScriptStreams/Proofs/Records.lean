import ScriptStreams.Proofs.Draining
/-!
# Files of NUL-terminated records

A file that is a list of byte strings, each with a NUL behind it, and a rest without one, read string by string: a byte
string that fits the buffer comes back in one call and a longer one in pieces as large as the buffer takes
(`Bytes.whole`), the last of them shorter and perhaps empty (`Bytes.remainder`), for the call that finds the NUL
alone still finds a string (`Handle.drain_records`).
-/
namespace ScriptStreams

/-! ## Pieces of a byte string -/

namespace Bytes

variable {m : Nat} {bs : Bytes}

/-- The successive pieces of just `m` bytes. -/
def whole (m : Nat) (bs : Bytes) : List Bytes := (List.range (bs.length / m)).map fun i => (bs.drop (i * m)).take m

/-- What is left behind them, fewer than `m` bytes. -/
def remainder (m : Nat) (bs : Bytes) : Bytes := bs.drop (bs.length / m * m)

theorem length_remainder (m : Nat) (bs : Bytes) : (remainder m bs).length = bs.length % m := by
  have parts := Nat.div_add_mod' bs.length m
  rw [remainder, List.length_drop]
  omega

theorem whole_of_lt (short : bs.length < m) : whole m bs = [] := by
  rw [whole, Nat.div_eq_of_lt short]
  rfl

theorem remainder_of_lt (short : bs.length < m) : remainder m bs = bs := by
  rw [remainder, Nat.div_eq_of_lt short, Nat.zero_mul]
  rfl

theorem length_of_mem_whole {piece : Bytes} (listed : piece ∈ whole m bs) : piece.length = m := by
  obtain ⟨i, within, rfl⟩ := List.mem_map.1 listed
  have room : (i + 1) * m ≤ bs.length := by
    have inside : i + 1 ≤ bs.length / m := List.mem_range.1 within
    exact Nat.le_trans (Nat.mul_le_mul_right m inside) (Nat.div_mul_le_self _ _)
  rw [List.length_take, List.length_drop]
  rw [Nat.succ_mul] at room
  omega

theorem mem_of_mem_whole {piece : Bytes} (listed : piece ∈ whole m bs) {b : UInt8} (within : b ∈ piece) : b ∈ bs := by
  obtain ⟨i, -, rfl⟩ := List.mem_map.1 listed
  exact List.mem_of_mem_drop (List.mem_of_mem_take within)

/-! ### One piece at a time -/

theorem length_div_of_le (positive : 0 < m) (full : m ≤ bs.length) : bs.length / m = (bs.drop m).length / m + 1 := by
  rw [List.length_drop, Nat.div_eq_sub_div positive full]

theorem whole_of_le (positive : 0 < m) (full : m ≤ bs.length) : whole m bs = bs.take m :: whole m (bs.drop m) := by
  rw [whole, length_div_of_le positive full, List.range_succ_eq_map, List.map_cons, List.map_map, Nat.zero_mul]
  refine congrArg _ (List.map_congr_left fun i _ => ?_)
  simp only [Function.comp, List.drop_drop]
  rw [Nat.succ_mul, Nat.add_comm]

theorem remainder_of_le (positive : 0 < m) (full : m ≤ bs.length) : remainder m bs = remainder m (bs.drop m) := by
  rw [remainder, length_div_of_le positive full, remainder, List.drop_drop, Nat.succ_mul, Nat.add_comm]

/-- What holds of short byte strings, and of others if of what is left behind their first `m` bytes, holds of all. -/
theorem pieces_induction {P : Bytes → Prop} (positive : 0 < m) (short : ∀ bs : Bytes, bs.length < m → P bs)
    (long : ∀ bs : Bytes, m ≤ bs.length → P (bs.drop m) → P bs) (bs : Bytes) : P bs := by
  induction h : bs.length using Nat.strongRecOn generalizing bs with
  | ind n ih =>
    by_cases fits : bs.length < m
    · exact short bs fits
    · refine long bs (by omega) (ih (bs.drop m).length ?_ (bs.drop m) rfl)
      rw [List.length_drop]
      omega

/-- The pieces and what is left make up the byte string. -/
theorem flatten_whole (positive : 0 < m) (bs : Bytes) : (whole m bs).flatten ++ remainder m bs = bs := by
  induction bs using pieces_induction positive with
  | short bs fits =>
    rw [whole_of_lt fits, remainder_of_lt fits]
    rfl
  | long bs full ih =>
    rw [whole_of_le positive full, remainder_of_le positive full, List.flatten_cons, List.append_assoc, ih,
      List.take_append_drop]

/-! ### Records -/

/-- What the reads of a record give: its whole pieces, and what is left in front of its NUL. -/
def recordPieces (m : Nat) (word : Bytes) : List Bytes := whole m word ++ [remainder m word]

/-- The bytes that these reads take. -/
def recordSpans (m : Nat) (word : Bytes) : List Bytes := whole m word ++ [remainder m word ++ [0]]

/-- What the reads behind the last NUL give. -/
def tailPieces (m : Nat) (tail : Bytes) : List Bytes :=
  whole m tail ++ if remainder m tail = [] then [] else [remainder m tail]

/-- A record that fits with its NUL is one piece. -/
theorem recordPieces_of_lt {word : Bytes} (short : word.length < m) : recordPieces m word = [word] := by
  rw [recordPieces, whole_of_lt short, remainder_of_lt short]
  rfl

end Bytes

/-! ## The spans of a file of records -/

namespace Cursor

variable {m : Nat} {rest : Bytes} {spans : List Bytes}

/-- Where there is no NUL a piece takes as much as it may. -/
theorem cut_full {word : Bytes} (positive : 0 < m) (clean : 0 ∉ word) (full : m ≤ word.length)
    (cut : Cut 0 m (word.drop m ++ rest) spans) : Cut 0 m (word ++ rest) (word.take m :: spans) := by
  have parts : word ++ rest = word.take m ++ (word.drop m ++ rest) := by
    rw [← List.append_assoc, List.take_append_drop]
  rw [parts]
  refine .cons ?_ ?_ cut
  · intro empty
    have length := congrArg List.length empty
    rw [List.length_take_of_le full, List.length_nil] at length
    omega
  · rw [← parts, through_append_of_not_mem clean, List.take_append_of_le_length full]

/-- **A record** is cut into its whole pieces and a span with the NUL, whatever comes behind. -/
theorem cut_record (positive : 0 < m) {word : Bytes} (clean : 0 ∉ word) (cut : Cut 0 m rest spans) :
    Cut 0 m (word ++ 0 :: rest) (Bytes.recordSpans m word ++ spans) := by
  unfold Bytes.recordSpans
  induction word using Bytes.pieces_induction positive with
  | short word fits =>
    rw [Bytes.whole_of_lt fits, Bytes.remainder_of_lt fits]
    have parts : word ++ 0 :: rest = (word ++ [0]) ++ rest := by simp
    rw [parts]
    refine .cons (by simp) ?_ cut
    rw [← parts, through_append_cons clean, List.take_of_length_le]
    rw [List.length_append, List.length_singleton]
    omega
  | long word full ih =>
    rw [Bytes.whole_of_le positive full, Bytes.remainder_of_le positive full]
    exact cut_full positive clean full (ih fun present => clean (List.mem_of_mem_drop present))

/-- The bytes behind the last NUL are cut into pieces without an empty one. -/
theorem cut_tail (positive : 0 < m) {tail : Bytes} (clean : 0 ∉ tail) : Cut 0 m tail (Bytes.tailPieces m tail) := by
  unfold Bytes.tailPieces
  induction tail using Bytes.pieces_induction positive with
  | short tail fits =>
    rw [Bytes.whole_of_lt fits, Bytes.remainder_of_lt fits, List.nil_append]
    split
    · next empty => rw [empty]; exact .nil
    · next some_left =>
      have taken : (through 0 (tail ++ [])).take m = tail := by
        rw [List.append_nil, through_eq_self clean, List.take_of_length_le (Nat.le_of_lt fits)]
      simpa using Cut.cons some_left taken .nil
  | long tail full ih =>
    rw [Bytes.whole_of_le positive full, Bytes.remainder_of_le positive full, List.cons_append]
    have later := ih fun present => clean (List.mem_of_mem_drop present)
    rw [← List.append_nil (tail.drop m)] at later
    simpa using cut_full positive clean full later

/-- **The whole file** is cut record by record. -/
theorem cut_records (positive : 0 < m) {words : List Bytes} (clean : ∀ word ∈ words, 0 ∉ word) {tail : Bytes}
    (cleanTail : 0 ∉ tail) :
    Cut 0 m ((words.map fun word => word ++ [0]).flatten ++ tail)
      (words.flatMap (Bytes.recordSpans m) ++ Bytes.tailPieces m tail) := by
  induction words with
  | nil => exact cut_tail positive cleanTail
  | cons word words ih =>
    rw [List.forall_mem_cons] at clean
    simpa using cut_record positive clean.1 (ih clean.2)

theorem untilNul_record {word : Bytes} (clean : 0 ∉ word) :
    (Bytes.recordSpans m word).map Bytes.untilNul = Bytes.recordPieces m word := by
  have kept : (Bytes.whole m word).map Bytes.untilNul = Bytes.whole m word := by
    refine map_untilNul_eq_self ?_
    intro piece listed present
    exact clean (Bytes.mem_of_mem_whole listed present)
  have left : 0 ∉ Bytes.remainder m word := fun present => clean (List.mem_of_mem_drop present)
  have cut := Bytes.untilNul_append_zero (Bytes.remainder m word) []
  rw [List.append_nil, Bytes.untilNul_eq_self left] at cut
  rw [Bytes.recordSpans, List.map_append, kept, List.map_singleton, cut]
  rfl

theorem untilNul_tail {tail : Bytes} (clean : 0 ∉ tail) :
    (Bytes.tailPieces m tail).map Bytes.untilNul = Bytes.tailPieces m tail := by
  refine map_untilNul_eq_self ?_
  intro piece listed present
  rcases List.mem_append.1 listed with listed | listed
  · exact clean (Bytes.mem_of_mem_whole listed present)
  · split at listed
    · cases listed
    · obtain rfl : piece = Bytes.remainder m tail := by simpa using listed
      exact clean (List.mem_of_mem_drop present)

/-- What is read of the spans of the whole file. -/
theorem untilNul_records {words : List Bytes} (clean : ∀ word ∈ words, 0 ∉ word) {tail : Bytes}
    (cleanTail : 0 ∉ tail) :
    (words.flatMap (Bytes.recordSpans m) ++ Bytes.tailPieces m tail).map Bytes.untilNul =
      words.flatMap (Bytes.recordPieces m) ++ Bytes.tailPieces m tail := by
  rw [List.map_append, untilNul_tail cleanTail]
  congr 1
  induction words with
  | nil => rfl
  | cons word words ih =>
    rw [List.forall_mem_cons] at clean
    rw [List.flatMap_cons, List.map_append, untilNul_record clean.1, ih clean.2, List.flatMap_cons]

end Cursor

/-! ## Reading a file of records -/

namespace Handle

variable {h : Handle} {r : StreamRef} {id : FileId} {env : Environment}

/-- **Strings until there are no more.** Of a file of byte strings without a NUL, each with a NUL behind it, and a tail
without one, calls that read strings of fewer than `n` bytes from the beginning on give one byte string after the
other, in whole pieces of `n - 1` bytes and what is left of it, which may be empty; then the tail in whole pieces and
what is left if that is not empty; and then nothing, with the file at its end. Byte strings that fit with their NUL
come back one a call. -/
theorem drain_records {w : World} {n : Nat} {words : List Bytes} {tail : Bytes} (ref : h.ref? = some r)
    (stands : World.Stands r w (.file id 0, env))
    (content : (env.files.content id).toList = (words.map fun word => word ++ [0]).flatten ++ tail)
    (clean : ∀ word ∈ words, 0 ∉ word) (cleanTail : 0 ∉ tail) (pool : w.pool.Sound)
    (granted : w.grants (n + scratchGuard) = true) (long : 2 ≤ n) :
    let m := n - 1
    let results := words.flatMap (Bytes.recordPieces m) ++ Bytes.tailPieces m tail
    (∀ k,
      let after := ReadStep.performAll h w (List.replicate k (.readCString n none))
      after.1 = (List.range k).map (fun i => Answer.ofBytes? results[i]?) ∧
        (results.length ≤ k → World.Stands r after.2 (.file id (env.files.content id).size, env))) ∧
      (∀ bs : Bytes, (Bytes.whole m bs).length = bs.length / m ∧ (∀ piece ∈ Bytes.whole m bs, piece.length = m) ∧
        (Bytes.remainder m bs).length = bs.length % m ∧ (Bytes.whole m bs).flatten ++ Bytes.remainder m bs = bs) ∧
      ((∀ word ∈ words, word.length ≤ n - 2) → words.flatMap (Bytes.recordPieces m) = words) := by
  intro m results
  have positive : 0 < m := by omega
  have start : World.OnFile r id env w w ⟨(env.files.content id).toList, 0⟩ := ⟨stands, rfl, .refl pool⟩
  have reads := Cursor.answer_readCString granted (by omega)
  have cut := Cursor.cut_records positive clean cleanTail
  have given : _ = results := Cursor.untilNul_records clean cleanTail
  rw [← content] at cut
  refine ⟨?_, ?_, ?_⟩
  · intro k after
    obtain ⟨answers, drained⟩ := drain_pieces ref rfl reads start cut k
    rw [given] at answers
    refine ⟨answers, ?_⟩
    intro all
    have stands' := drained.stands
    rw [List.take_of_length_le] at stands'
    · simpa only [cut.flatten, Cursor.advance, Nat.zero_add, Array.length_toList] using stands'
    · have counted := congrArg List.length given
      rw [List.length_map] at counted
      omega
  · intro bs
    refine ⟨?_, fun piece listed => Bytes.length_of_mem_whole listed, Bytes.length_remainder m bs,
      Bytes.flatten_whole positive bs⟩
    rw [Bytes.whole, List.length_map, List.length_range]
  · intro short
    have single : ∀ word ∈ words, Bytes.recordPieces m word = [word] := by
      intro word listed
      have := short word listed
      exact Bytes.recordPieces_of_lt (by omega)
    rw [List.flatMap_congr single, List.flatMap_singleton']

/-- Three records, one of them empty, and a byte behind them. -/
def recordFile : World where
  env := { files := { contents := [(0, #[97, 98, 99, 0, 0, 100, 0, 101])], next := 1 } }
  table := { entries := [(.first, ⟨.created, .file 0 0⟩)], next := StreamRef.first.next, opened := 1 }

/-- The first record fills the buffer, so its NUL is left for another call. -/
theorem drain_records_recordFile :
    let w := recordFile
    let h : Handle := ⟨.owned .first, "a"⟩
    let words : List Bytes := [[97, 98, 99], [], [100]]
    (w.env.files.content 0).toList = (words.map fun word => word ++ [0]).flatten ++ [101] ∧
      (∀ word ∈ words, 0 ∉ word) ∧ w.pool.Sound ∧ w.grants (4 + scratchGuard) = true ∧
      let after := ReadStep.performAll h w (List.replicate 6 (.readCString 4 none))
      after.1 = [.data [97, 98, 99], .data [], .data [], .data [100], .data [101], .nothing] ∧
        World.Stands .first after.2 (.file 0 8, w.env) := by
  intro w h words
  have ref : h.ref? = some .first := rfl
  have stands : World.Stands .first w (.file 0 0, w.env) := ⟨⟨.created, rfl⟩, rfl⟩
  have content : (w.env.files.content 0).toList = (words.map fun word => word ++ [0]).flatten ++ [101] := by rfl
  have clean : ∀ word ∈ words, 0 ∉ word := by decide
  have pool : w.pool.Sound := Scratch.Pool.sound_empty
  have granted : w.grants (4 + scratchGuard) = true := by decide
  obtain ⟨answers, stop⟩ := (drain_records ref stands content clean (by decide) pool granted (by decide)).1 6
  exact ⟨content, clean, pool, granted, answers, stop (by decide)⟩

end Handle
end ScriptStreams
