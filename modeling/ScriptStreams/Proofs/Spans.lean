import ScriptStreams.Proofs.Cursor
/-!
# Byte strings cut into spans

Pieces read one after the other take a byte string apart (`Cursor.Cut`): each span leads through the next `last`, or
as far as the limit allows, or to the end, whichever comes first (`Cursor.Cut.firstStop`). Any byte string can be cut
so (`Cursor.cut_exists`), and what a reader drops behind the first NUL of a span is missed in the whole
(`Cursor.flatten_untilNul_eq_iff`).
-/
namespace ScriptStreams

namespace Cursor

variable {last : UInt8} {limit : Nat} {bs rest span : Bytes} {spans : List Bytes}

/-! ## Where a span stops -/

theorem through_isPrefix (last : UInt8) (bs : Bytes) : through last bs <+: bs := by
  induction bs with
  | nil => exact List.nil_prefix
  | cons b bs ih =>
    rw [through_cons]
    split
    · exact ⟨bs, rfl⟩
    · exact List.cons_prefix_cons.2 ⟨rfl, ih⟩

theorem through_append_of_not_mem (absent : last ∉ bs) (rest : Bytes) :
    through last (bs ++ rest) = bs ++ through last rest := by
  induction bs with
  | nil => rfl
  | cons b bs ih =>
    rw [List.mem_cons, not_or] at absent
    rw [List.cons_append, through_cons, if_neg (Ne.symm absent.1), ih absent.2, List.cons_append]

theorem through_eq_self (absent : last ∉ bs) : through last bs = bs := by
  have whole := through_append_of_not_mem absent []
  rwa [List.append_nil, through_nil, List.append_nil] at whole

theorem through_append_cons (absent : last ∉ bs) (rest : Bytes) : through last (bs ++ last :: rest) = bs ++ [last] := by
  rw [through_append_of_not_mem absent, through_cons, if_pos rfl]

theorem getLast?_through (present : last ∈ bs) : (through last bs).getLast? = some last := by
  obtain ⟨front, behind, rfl, absent⟩ := List.eq_append_cons_of_mem present
  rw [through_append_cons absent]
  simp

/-- Nothing behind the first `last` is looked at. -/
theorem through_append (present : last ∈ bs) (rest : Bytes) : through last (bs ++ rest) = through last bs := by
  obtain ⟨front, behind, rfl, absent⟩ := List.eq_append_cons_of_mem present
  rw [List.append_assoc, List.cons_append, through_append_cons absent, through_append_cons absent]

theorem take_through_ne_nil (positive : 0 < limit) (some_left : bs ≠ []) : (through last bs).take limit ≠ [] := by
  obtain ⟨k, rfl⟩ := Nat.exists_eq_succ_of_ne_zero (Nat.ne_of_gt positive)
  obtain ⟨b, bs, rfl⟩ := List.exists_cons_of_ne_nil some_left
  rw [take_through_cons]
  split <;> simp

/-- A span of `bs` may stop behind a `last`, at the limit or where `bs` ends. -/
def Stops (last : UInt8) (limit : Nat) (bs span : Bytes) : Prop :=
  span.getLast? = some last ∨ span.length = limit ∨ span = bs

/-- The span stops at the first place where it may. -/
structure FirstStop (last : UInt8) (limit : Nat) (bs span : Bytes) : Prop where
  front : span <+: bs
  stops : Stops last limit bs span
  first : ∀ other, other <+: bs → Stops last limit bs other → span <+: other

theorem firstStop_piece (last : UInt8) (limit : Nat) (bs : Bytes) :
    FirstStop last limit bs ((through last bs).take limit) := by
  have front : (through last bs).take limit <+: bs := (List.take_prefix _ _).trans (through_isPrefix last bs)
  refine ⟨front, ?_, ?_⟩
  · by_cases full : limit ≤ (through last bs).length
    · exact .inr (.inl (List.length_take_of_le full))
    · rw [List.take_of_length_le (by omega)]
      by_cases present : last ∈ bs
      · exact .inl (getLast?_through present)
      · exact .inr (.inr (through_eq_self present))
  · intro other within stops
    refine List.prefix_of_prefix_length_le front within ?_
    rcases stops with ends | full | whole
    · have present : last ∈ other := List.mem_of_getLast? ends
      obtain ⟨behind, rfl⟩ := within
      rw [through_append present]
      exact Nat.le_trans (List.length_take_le' _ _) (through_isPrefix last other).length_le
    · rw [full]
      exact List.length_take_le _ _
    · rw [whole]
      exact front.length_le

/-! ## Cutting all of it -/

/-- The spans that pieces of at most `limit` bytes take, one after the other until nothing is left. -/
inductive Cut (last : UInt8) (limit : Nat) : Bytes → List Bytes → Prop where
  | nil : Cut last limit [] []
  | cons {span rest : Bytes} {spans : List Bytes} : span ≠ [] → (through last (span ++ rest)).take limit = span →
      Cut last limit rest spans → Cut last limit (span ++ rest) (span :: spans)

theorem cut_exists (last : UInt8) {limit : Nat} (positive : 0 < limit) (bs : Bytes) :
    ∃ spans, Cut last limit bs spans := by
  induction h : bs.length using Nat.strongRecOn generalizing bs with
  | ind n ih =>
    by_cases empty : bs = []
    · rw [empty]
      exact ⟨[], .nil⟩
    · have some_taken : (through last bs).take limit ≠ [] := take_through_ne_nil positive empty
      obtain ⟨rest, whole⟩ := (firstStop_piece last limit bs).front
      have shorter : rest.length < n := by
        have lengths := congrArg List.length whole
        have := List.length_pos_iff.2 some_taken
        rw [List.length_append] at lengths
        omega
      obtain ⟨spans, cut⟩ := ih rest.length shorter rest rfl
      have taken : Cut last limit ((through last bs).take limit ++ rest) (_ :: spans) :=
        .cons some_taken (by rw [whole]) cut
      rw [whole] at taken
      exact ⟨_, taken⟩

namespace Cut

theorem flatten (cut : Cut last limit bs spans) : spans.flatten = bs := by
  induction cut with
  | nil => rfl
  | cons _ _ _ ih => rw [List.flatten_cons, ih]

theorem ne_nil (cut : Cut last limit bs spans) : ∀ span ∈ spans, span ≠ [] := by
  induction cut with
  | nil => simp
  | cons some_taken _ _ ih => exact List.forall_mem_cons.2 ⟨some_taken, ih⟩

/-- There are no more spans than bytes. -/
theorem length_le (cut : Cut last limit bs spans) : spans.length ≤ bs.length := by
  induction cut with
  | nil => exact Nat.le_refl _
  | cons some_taken _ _ ih =>
    have := List.length_pos_iff.2 some_taken
    rw [List.length_cons, List.length_append]
    omega

/-- Every span stops at the first place where it may stop in what was left. -/
theorem firstStop (cut : Cut last limit bs spans) :
    ∀ before span later, spans = before ++ span :: later → FirstStop last limit (span :: later).flatten span := by
  induction cut with
  | nil =>
    intro before span later split
    cases before <;> cases split
  | @cons span₀ rest spans some_taken taken cut ih =>
    intro before span later split
    cases before with
    | nil =>
      obtain ⟨rfl, rfl⟩ : span₀ = span ∧ spans = later := by simpa using split
      rw [List.flatten_cons, cut.flatten]
      have first := firstStop_piece last limit (span₀ ++ rest)
      rwa [taken] at first
    | cons _ before => exact ih before span later (by simpa using (List.cons.inj split).2)

end Cut

theorem map_untilNul_eq_self (clean : ∀ span ∈ spans, 0 ∉ span) : spans.map Bytes.untilNul = spans := by
  refine (List.map_congr_left fun span listed => ?_).trans (List.map_id spans)
  exact Bytes.untilNul_eq_self (clean span listed)

/-- **What is dropped behind a NUL is missed.** Spans that are cut before their first NUL make up the whole if and
only if there is no NUL. -/
theorem flatten_untilNul_eq_iff (spans : List Bytes) :
    (spans.map Bytes.untilNul).flatten = spans.flatten ↔ 0 ∉ spans.flatten := by
  have clean : 0 ∉ (spans.map Bytes.untilNul).flatten := by
    intro present
    obtain ⟨piece, listed, within⟩ := List.mem_flatten.1 present
    obtain ⟨span, -, rfl⟩ := List.mem_map.1 listed
    exact Bytes.zero_not_mem_untilNul span within
  constructor
  · intro whole
    rwa [whole] at clean
  · intro absent
    rw [map_untilNul_eq_self]
    intro span listed present
    exact absent (List.mem_flatten.2 ⟨span, listed, present⟩)

end Cursor
end ScriptStreams
