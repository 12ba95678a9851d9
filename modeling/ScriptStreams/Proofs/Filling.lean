import ScriptStreams.Proofs.Walks
/-!
# Filling a buffer from piecemeal answers

A source may answer a read with fewer bytes than were asked for, and it ends or fails at some point. The loop that fills a
buffer from it is written down round by round here (`fillRound`): it asks for what there is room for, until the buffer is
full or the source has no more. On every source that keeps to the buffer it comes to an end, with what `fill` gives. None
of the bytes that the source delivered before its end or failure is lost or moved, and those that the buffer had no room
for are still to come (`fill_loses_nothing`).
-/
namespace ScriptStreams

variable {σ : Type} {ask : Nat → σ → Delivery × σ} {portion : Nat → Nat} {s s' : σ} {bs bytes : Bytes}
  {fuel want n : Nat}

/-! ## Sources and the loop -/

/-- Asked again and again, the source delivers `bytes` before it ends or fails for the first time, or is asked for no more.
How much it is asked for depends on how much it has delivered (`portion`), how much it gives is up to the source. -/
inductive Delivers (ask : Nat → σ → Delivery × σ) (portion : Nat → Nat) : Nat → σ → Bytes → Prop where
  | ended {n : Nat} {s : σ} (asked : 0 < portion n) (nothing : (ask (portion n) s).1 = .bytes []) : Delivers ask portion n s []
  | failed {n : Nat} {s : σ} (asked : 0 < portion n) (failure : (ask (portion n) s).1 = .failure) : Delivers ask portion n s []
  | sated {n : Nat} {s : σ} (unasked : portion n = 0) : Delivers ask portion n s []
  | delivered {n : Nat} {s s' : σ} {bs rest : Bytes} (some : bs ≠ []) (answer : ask (portion n) s = (.bytes bs, s'))
      (later : Delivers ask portion (n + bs.length) s' rest) : Delivers ask portion n s (bs ++ rest)

/-- A buffer, how much of its front is filled, the source, and what the loop returned if it was left. -/
structure Filling (σ : Type) where
  buffer : Bytes
  filled : Nat
  source : σ
  returned : Option Int := none

/-- One round of filling. A failure before the first byte is returned as such, a later one is an end like any other. -/
def fillRound (ask : Nat → σ → Delivery × σ) (f : Filling σ) : Option (Filling σ) :=
  if f.returned.isSome then none
  else if f.buffer.length ≤ f.filled then some { f with returned := some f.filled }
  else match ask (f.buffer.length - f.filled) f.source with
    | (.bytes [], s) => some { f with source := s, returned := some f.filled }
    | (.failure, s) => some { f with source := s, returned := some (if f.filled = 0 then -1 else f.filled) }
    | (.bytes bs, s) =>
      some { f with
        buffer := f.buffer.take f.filled ++ Bytes.overlay (f.buffer.drop f.filled) bs
        filled := f.filled + bs.length
        source := s }

/-! ## Answers, one by one -/

theorem gather_zero (ask : Nat → σ → Delivery × σ) (fuel : Nat) (s : σ) : gather ask fuel 0 s = ([], false, s) := by
  cases fuel <;> simp [gather]

theorem gather_of_end (wanted : want ≠ 0) (answer : ask want s = (.bytes [], s')) :
    gather ask (fuel + 1) want s = ([], false, s') := by
  simp [gather, wanted, answer]

theorem gather_of_failure (wanted : want ≠ 0) (answer : ask want s = (.failure, s')) :
    gather ask (fuel + 1) want s = ([], true, s') := by
  simp [gather, wanted, answer]

theorem gather_of_bytes (wanted : want ≠ 0) (some : bs ≠ []) (answer : ask want s = (.bytes bs, s')) :
    gather ask (fuel + 1) want s =
      let (rest, failed, left) := gather ask fuel (want - bs.length) s'
      (bs ++ rest, failed, left) := by
  cases bs with
  | nil => exact absurd rfl some
  | cons b bs => simp [gather, wanted, answer]

/-- **A failure is returned** just when it is the first answer. -/
theorem fill_count_eq_neg_one_iff : (fill ask want s).1.count = -1 ↔ want ≠ 0 ∧ (ask want s).1 = .failure := by
  cases want with
  | zero => simp [fill, gather]
  | succ want =>
    have wanted := Nat.succ_ne_zero want
    rcases answer : ask (want + 1) s with ⟨bs | _, s'⟩
    · by_cases nothing : bs = []
      · subst nothing
        simp [fill, gather_of_end wanted answer]
      · have positive := List.length_pos_iff.2 nothing
        simp only [fill, gather_of_bytes wanted nothing answer]
        split
        · next none_left => simp [nothing] at none_left
        · next all _ _ _ gathered =>
          have : (all.length : Int) ≠ -1 := by omega
          simp [this]
    · simp [fill, gather_of_failure wanted answer]

/-- A source that is asked for what is missing to `want`, and for nothing from there on, stops for one of the three reasons. -/
theorem exists_delivers (ask : Nat → σ → Delivery × σ) (want n : Nat) (s : σ) :
    ∃ bytes, Delivers ask (want - ·) n s bytes := by
  by_cases sated : want - n = 0
  · exact ⟨[], .sated sated⟩
  have asked : 0 < want - n := Nat.pos_of_ne_zero sated
  rcases answer : ask (want - n) s with ⟨bs | _, s'⟩
  · by_cases nothing : bs = []
    · subst nothing
      exact ⟨[], .ended asked (by rw [answer])⟩
    · have positive := List.length_pos_iff.2 nothing
      obtain ⟨rest, later⟩ := exists_delivers ask want (n + bs.length) s'
      exact ⟨bs ++ rest, .delivered nothing answer later⟩
  · exact ⟨[], .failed asked (by rw [answer])⟩
termination_by want - n

/-- What is gathered is the front of what the source delivers, and the rest is still to come. -/
theorem Delivers.gathered (delivers : Delivers ask portion n s bytes)
    (short : ∀ want s bs, (ask want s).1 = .bytes bs → bs.length ≤ want) (enough : want ≤ fuel)
    (follows : ∀ i < want, portion (n + i) = want - i) :
    (gather ask fuel want s).1 = bytes.take want ∧
      (want ≤ bytes.length →
        Delivers ask portion (n + want) (gather ask fuel want s).2.2 (bytes.drop want)) := by
  induction fuel generalizing n s bytes want with
  | zero =>
    obtain rfl : want = 0 := Nat.le_zero.1 enough
    simpa [gather_zero] using delivers
  | succ fuel ih =>
    by_cases wanted : want = 0
    · subst wanted
      simpa [gather_zero] using delivers
    have portion_eq : portion n = want := by simpa using follows 0 (Nat.pos_of_ne_zero wanted)
    cases delivers with
    | ended asked nothing =>
      rw [portion_eq] at nothing
      rw [gather_of_end wanted (Prod.ext nothing rfl)]
      simp [wanted]
    | failed asked failure =>
      rw [portion_eq] at failure
      rw [gather_of_failure wanted (Prod.ext failure rfl)]
      simp [wanted]
    | sated unasked => exact absurd (portion_eq.symm.trans unasked) wanted
    | @delivered _ _ s' bs rest some answer later =>
      rw [portion_eq] at answer
      have fits : bs.length ≤ want := short want s bs (by rw [answer])
      have positive := List.length_pos_iff.2 some
      have goes_on : ∀ i < want - bs.length, portion (n + bs.length + i) = want - bs.length - i := by
        intro i small
        rw [Nat.add_assoc, follows (bs.length + i) (by omega)]
        omega
      obtain ⟨front, behind⟩ := ih later (by omega) goes_on
      rw [gather_of_bytes wanted some answer]
      refine ⟨?_, fun long => ?_⟩
      · simp [front, List.take_append, List.take_of_length_le fits]
      · have := behind (by simp at long; omega)
        simpa [List.drop_append, List.drop_eq_nil_of_le fits, Nat.add_assoc, Nat.add_sub_cancel' fits] using this

/-! ## The loop, round by round -/

/-- What the loop returns, by what arrived and whether the source failed. -/
def fillCode (arrived : Bytes) (failed : Bool) : Int := if arrived = [] ∧ failed then -1 else arrived.length

theorem fillCode_of_ne {arrived : Bytes} {failed : Bool} (works : fillCode arrived failed ≠ -1) :
    fillCode arrived failed = arrived.length := by
  unfold fillCode at works ⊢
  by_cases failing : arrived = [] ∧ failed
  · exact absurd (if_pos failing) works
  · exact if_neg failing

theorem fill_eq (ask : Nat → σ → Delivery × σ) (want : Nat) (s : σ) :
    fill ask want s =
      let (bs, failed, left) := gather ask want want s
      (⟨fillCode bs failed, bs⟩, left) := by
  rcases gathered : gather ask want want s with ⟨_ | ⟨b, bs⟩, _ | _, left⟩ <;> simp [fill, gathered, fillCode]

/-- The states that the loop goes through: the buffer keeps its length. -/
def Filling.Within (length : Nat) (f : Filling σ) : Prop := f.filled ≤ length ∧ f.buffer.length = length

/-- A round that returns is the last one. -/
theorem halts_of_returned {length : Nat} {f last : Filling σ} (good : f.Within length) (goes : fillRound ask f = some last)
    (left : last.returned.isSome) (still : last.Within length) : Halts (fillRound ask) (Filling.Within length) f last := by
  refine .next good goes (.stop still ?_)
  simp [fillRound, left]

theorem within_front (done room : Bytes) (s : σ) (code : Option Int) :
    Filling.Within (done.length + room.length) ⟨done ++ room, done.length, s, code⟩ := by
  simp [Filling.Within]

section Rounds

variable (done : Bytes) {room : Bytes}

theorem room_left (wanted : room ≠ []) : ¬ done.length + room.length ≤ done.length := by
  have := List.length_pos_iff.2 wanted
  omega

theorem fillRound_of_full (s : σ) :
    fillRound ask ⟨done, done.length, s, none⟩ = some ⟨done, done.length, s, some done.length⟩ := by
  simp [fillRound]

theorem fillRound_of_end (wanted : room ≠ []) (answer : ask room.length s = (.bytes [], s')) :
    fillRound ask ⟨done ++ room, done.length, s, none⟩ = some ⟨done ++ room, done.length, s', some done.length⟩ := by
  simp [fillRound, room_left done wanted, answer]

theorem fillRound_of_failure (wanted : room ≠ []) (answer : ask room.length s = (.failure, s')) :
    fillRound ask ⟨done ++ room, done.length, s, none⟩ =
      some ⟨done ++ room, done.length, s', some (if done.length = 0 then -1 else done.length)⟩ := by
  simp [fillRound, room_left done wanted, answer]

/-- What is delivered goes behind what is there, and the rest of the buffer stays. -/
theorem fillRound_of_bytes (wanted : room ≠ []) (some : bs ≠ []) (answer : ask room.length s = (.bytes bs, s')) :
    fillRound ask ⟨done ++ room, done.length, s, none⟩ =
      .some ⟨(done ++ bs) ++ room.drop bs.length, (done ++ bs).length, s', none⟩ := by
  cases bs with
  | nil => exact absurd rfl some
  | cons b bs => simp [fillRound, room_left done wanted, answer, Bytes.overlay]

end Rounds

theorem halts_of_full (done : Bytes) (s : σ) :
    Halts (fillRound ask) (Filling.Within done.length) ⟨done, done.length, s, none⟩
      ⟨done, done.length, s, some done.length⟩ := by
  have within := fun code => within_front done [] s code
  simp only [List.append_nil, List.length_nil, Nat.add_zero] at within
  exact halts_of_returned (within none) (fillRound_of_full done s) rfl (within _)

/-- The loop, once its front `done` is filled, stops with what is gathered behind that. -/
theorem halts_fillRound (short : ∀ want s bs, (ask want s).1 = .bytes bs → bs.length ≤ want) (done room : Bytes) (s : σ)
    (enough : room.length ≤ fuel) :
    let (got, failed, left) := gather ask fuel room.length s
    Halts (fillRound ask) (Filling.Within (done.length + room.length)) ⟨done ++ room, done.length, s, none⟩
      ⟨done ++ Bytes.overlay room got, (done ++ got).length, left, some (fillCode (done ++ got) failed)⟩ := by
  induction fuel generalizing done room s with
  | zero =>
    obtain rfl : room = [] := List.length_eq_zero_iff.1 (Nat.le_zero.1 enough)
    simpa [gather_zero, Bytes.overlay, fillCode] using halts_of_full done s
  | succ fuel ih =>
    by_cases full : room = []
    · subst full
      simpa [gather_zero, Bytes.overlay, fillCode] using halts_of_full done s
    have wanted : room.length ≠ 0 := by simpa using full
    rcases answer : ask room.length s with ⟨bs | _, s'⟩
    · by_cases nothing : bs = []
      · subst nothing
        rw [gather_of_end wanted answer]
        simpa [Bytes.overlay, fillCode] using halts_of_returned (within_front done room s none)
          (fillRound_of_end done full answer) rfl (within_front done room s' _)
      · -- the rest of the loop fills what is left of the buffer, behind what there is now
        have fits : bs.length ≤ room.length := short _ s bs (by rw [answer])
        have positive := List.length_pos_iff.2 nothing
        have later := ih (done ++ bs) (room.drop bs.length) s' (by simp; omega)
        have length : (done ++ bs).length + (room.drop bs.length).length = done.length + room.length := by
          simp
          omega
        rw [length, List.length_drop] at later
        rw [gather_of_bytes wanted nothing answer]
        refine .next (within_front done room s none) (fillRound_of_bytes done full nothing answer) ?_
        simpa [Bytes.overlay, List.drop_drop, Nat.add_comm] using later
    · rw [gather_of_failure wanted answer]
      simpa [Bytes.overlay, fillCode] using halts_of_returned (within_front done room s none)
        (fillRound_of_failure done full answer) rfl (within_front done room s' _)

/-- **Filling a buffer loses nothing.** Let the source give no read more than it asks for. Filling returns a failure just
when there is a buffer to fill and the very first answer is one. Let `bytes` be what the source delivers before it ends or
fails for the first time, asked for as much as there is room for as long as there is room, and then for anything, or for
nothing more (then every source has such `bytes`, also one that never ends). Unless the failure is returned, the count is
that of `bytes` or the length of the buffer, the smaller of the two. So many bytes are at the front of the buffer, in order,
and the rest of it is unchanged; what there was no room for the source still delivers. The loop itself comes to an end with
this buffer, this count and the source in this state, and stays inside the buffer on its way. -/
theorem fill_loses_nothing (short : ∀ want s bs, (ask want s).1 = .bytes bs → bs.length ≤ want) (buffer : Bytes) (s : σ) :
    let (t, left) := fill ask buffer.length s
    let after := Bytes.overlay buffer t.bytes
    (t.count = -1 ↔ buffer ≠ [] ∧ (ask buffer.length s).1 = .failure) ∧
      (∃ bytes, Delivers ask (buffer.length - ·) 0 s bytes) ∧
      (∀ portion bytes, (∀ n < buffer.length, portion n = buffer.length - n) → Delivers ask portion 0 s bytes →
        let k := min buffer.length bytes.length
        (t.count ≠ -1 → t.count = k) ∧ after.take k = bytes.take k ∧ after.drop k = buffer.drop k ∧
          (buffer.length ≤ bytes.length → Delivers ask portion buffer.length left (bytes.drop buffer.length))) ∧
      Halts (fillRound ask) (Filling.Within buffer.length) ⟨buffer, 0, s, none⟩
        ⟨after, t.bytes.length, left, some t.count⟩ := by
  have failing : (fill ask buffer.length s).1.count = -1 ↔ buffer.length ≠ 0 ∧ (ask buffer.length s).1 = .failure :=
    fill_count_eq_neg_one_iff
  have halts := halts_fillRound short [] buffer s (Nat.le_refl _)
  have delivered := fun portion bytes (follows : ∀ n < buffer.length, portion n = buffer.length - n)
    (delivers : Delivers ask portion 0 s bytes) => delivers.gathered short (Nat.le_refl _) (by simpa using follows)
  rw [fill_eq] at failing ⊢
  generalize gather ask buffer.length buffer.length s = run at failing halts delivered ⊢
  obtain ⟨got, failed, left⟩ := run
  refine ⟨by simpa using failing, exists_delivers ask _ 0 s, fun portion bytes follows delivers => ?_, by simpa using halts⟩
  obtain ⟨rfl, later⟩ := delivered portion bytes follows delivers
  have width : (bytes.take buffer.length).length = min buffer.length bytes.length := List.length_take
  refine ⟨fun works => ?_, ?_, ?_, by simpa using later⟩
  · rw [← width]
    exact fillCode_of_ne works
  · rw [← width, Bytes.take_overlay]
    simp
  · rw [← width, Bytes.drop_overlay]

/-- A source that gives its pieces one after the other, as much of each as is asked for, and then fails. -/
def handPieces (want : Nat) : List Bytes → Delivery × List Bytes
  | [] => (.failure, [])
  | piece :: rest => (.bytes (piece.take want), if piece.length ≤ want then rest else piece.drop want :: rest)

/-- Two pieces and a failure do not fill nine bytes. The failure is the third answer, so it is not returned. -/
theorem fill_loses_nothing_failingLate :
    let s : List Bytes := [[1, 2, 3], [4, 5, 6, 7]]
    let buffer : Bytes := List.replicate 9 170
    let (t, left) := fill handPieces 9 s
    (∀ want s bs, (handPieces want s).1 = .bytes bs → bs.length ≤ want) ∧
      Delivers handPieces (9 - ·) 0 s [1, 2, 3, 4, 5, 6, 7] ∧ t.count = 7 ∧
      Bytes.overlay buffer t.bytes = [1, 2, 3, 4, 5, 6, 7, 170, 170] ∧
      Halts (fillRound handPieces) (Filling.Within 9) ⟨buffer, 0, s, none⟩
        ⟨[1, 2, 3, 4, 5, 6, 7, 170, 170], 7, left, some 7⟩ := by
  intro s buffer
  have short : ∀ want s bs, (handPieces want s).1 = .bytes bs → bs.length ≤ want := by
    intro want s bs given
    cases s with
    | nil => cases given
    | cons piece rest =>
      cases given
      exact List.length_take_le want piece
  have delivers : Delivers handPieces (9 - ·) 0 s ([1, 2, 3] ++ ([4, 5, 6, 7] ++ [])) :=
    .delivered (by decide) rfl (.delivered (by decide) rfl (.failed (by decide) rfl))
  obtain ⟨-, -, filled, halts⟩ := fill_loses_nothing short buffer s
  obtain ⟨count, front, rest, -⟩ := filled (9 - ·) _ (fun _ _ => rfl) delivers
  refine ⟨short, delivers, count (by decide), ?_, halts⟩
  rw [← List.take_append_drop 7 (Bytes.overlay buffer _)]
  exact congrArg₂ (· ++ ·) front rest

end ScriptStreams
