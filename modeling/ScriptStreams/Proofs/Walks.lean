import ScriptStreams.Proofs.ByteMap
/-!
# Copying and measuring, round by round

Copying memory into a buffer and measuring how much is mapped are two loops over the segments: one stops when the buffer
is full, the other goes on as long as there is a segment. Here they are written down round by round, with the states they
keep (`Image.copyRound`, `Image.measureRound`). On every image that mapping and unmapping make, overlapping, hidden and
empty segments and such that reach over the last address included, both stop, and both go the same way
(`Image.read_and_extent_agree`).
-/
namespace ScriptStreams

/-- A loop stops: round by round it gets from one state to a last one, from which there is no round. The states on the
way, the first and the last one included, satisfy `P`. -/
inductive Halts {σ : Type} (round : σ → Option σ) (P : σ → Prop) : σ → σ → Prop where
  | stop {s : σ} (good : P s) (ended : round s = none) : Halts round P s s
  | next {s s' last : σ} (good : P s) (goes : round s = some s') (rest : Halts round P s' last) : Halts round P s last

theorem Halts.imp {σ : Type} {round : σ → Option σ} {P Q : σ → Prop} {s last : σ} (implied : ∀ s, P s → Q s)
    (halts : Halts round P s last) : Halts round Q s last := by
  induction halts with
  | stop good ended => exact .stop (implied _ good) ended
  | next good goes _ ih => exact .next (implied _ good) goes ih

/-- A buffer and how much of its front is copied. -/
structure Copying where
  buffer : Bytes
  copied : Nat

namespace Image

variable {img : Image} {addr fuel n m total : Nat} {s t : Segment} {offset : Nat}

/-! ## The loops -/

/-- One round of measuring: on to the end of the segment that has the first address not measured yet. -/
def measureRound (img : Image) (addr measured : Nat) : Option Nat :=
  if addressLimit ≤ addr + measured then none
  else (img.locate? (addr + measured)).map fun (s, offset) => measured + (s.bytes.size - offset)

/-- One round of copying: the bytes of the segment that has the first address not copied yet, as many as it has and as
the buffer takes. -/
def copyRound (img : Image) (addr : Nat) (c : Copying) : Option Copying :=
  if c.buffer.length ≤ c.copied ∨ addressLimit ≤ addr + c.copied then none
  else (img.locate? (addr + c.copied)).map fun (s, offset) =>
    let bs := Bytes.slice s.bytes offset (c.buffer.length - c.copied)
    ⟨c.buffer.take c.copied ++ Bytes.overlay (c.buffer.drop c.copied) bs, c.copied + bs.length⟩

/-- Measuring stops with the extent. -/
theorem halts_measure {measured : Nat} (whole : measured + img.extent (addr + measured) = total) :
    Halts (img.measureRound addr) (· ≤ total) measured total := by
  induction h : addr + measured using extent.induct img generalizing measured with
  | case1 cur outside =>
    subst h
    obtain rfl : measured = total := by simpa [extent_of_limit outside] using whole
    exact .stop (Nat.le_refl _) (if_pos outside)
  | case2 cur inside unmapped =>
    subst h
    obtain rfl : measured = total := by simpa [extent_of_none unmapped] using whole
    exact .stop (Nat.le_refl _) (by rw [measureRound, if_neg inside, unmapped]; rfl)
  | case3 cur inside s offset located ih =>
    subst h
    rw [extent_of_some (Nat.not_le.1 inside) located, ← Nat.add_assoc, Nat.add_assoc addr] at whole
    refine .next (by omega) ?_ (ih whole (Nat.add_assoc ..).symm)
    rw [measureRound, if_neg inside, located]
    rfl

/-- A round of copying when `done` is copied and `rest` is what is left of the buffer. -/
theorem copyRound_append (located : img.locate? (addr + n) = some (s, offset)) (inside : addr + n < addressLimit)
    {done rest : Bytes} (copied : done.length = n) (some_left : rest ≠ []) :
    let bs := Bytes.slice s.bytes offset rest.length
    img.copyRound addr ⟨done ++ rest, n⟩ = some ⟨(done ++ bs) ++ rest.drop bs.length, (done ++ bs).length⟩ := by
  intro bs
  have positive := List.length_pos_iff.2 some_left
  have room : ¬ ((done ++ rest).length ≤ n ∨ addressLimit ≤ addr + n) := by
    rw [List.length_append]
    omega
  have left : (done ++ rest).length - n = rest.length := by
    rw [List.length_append]
    omega
  simp only [copyRound, if_neg room, left, located, Option.map_some]
  subst copied
  simp [bs, Bytes.overlay]

/-- Where there is no round, nothing more is put into the buffer. -/
theorem halts_copy_of_none {done rest : Bytes} (whole : done.length + rest.length = n)
    (ended : img.copyRound addr ⟨done ++ rest, done.length⟩ = none) :
    Halts (img.copyRound addr) (fun c => c.copied ≤ n ∧ c.buffer.length = n) ⟨done ++ rest, done.length⟩
      ⟨done ++ Bytes.overlay rest [], (done ++ []).length⟩ := by
  rw [Bytes.overlay_nil, List.append_nil]
  refine .stop ⟨?_, ?_⟩ ended
  · dsimp only
    omega
  · rw [List.length_append, whole]

/-- Copying stops with what is read, at the front of the buffer. -/
theorem halts_copy (done rest : Bytes) (enough : rest.length ≤ fuel) (whole : done.length + rest.length = n) :
    let got := img.copy fuel (addr + done.length) rest.length
    Halts (img.copyRound addr) (fun c => c.copied ≤ n ∧ c.buffer.length = n) ⟨done ++ rest, done.length⟩
      ⟨done ++ Bytes.overlay rest got, (done ++ got).length⟩ := by
  induction fuel generalizing done rest with
  | zero =>
    refine halts_copy_of_none whole (if_pos (.inl ?_))
    dsimp only
    rw [List.length_append]
    omega
  | succ fuel ih =>
    unfold copy
    split
    · next ended =>
      refine halts_copy_of_none whole (if_pos ?_)
      dsimp only
      rw [List.length_append]
      omega
    · next goes_on =>
      obtain ⟨some_left, inside⟩ := not_or.1 goes_on
      cases located : img.locate? (addr + done.length) with
      | none =>
        refine halts_copy_of_none whole ?_
        simp [copyRound, located]
      | some found =>
        obtain ⟨s, offset⟩ := found
        have nonempty := locate?_lt located
        have length := Bytes.length_slice s.bytes offset rest.length
        have some_rest : rest ≠ [] := fun none_left => some_left (congrArg List.length none_left)
        have goes := copyRound_append located (Nat.not_le.1 inside) rfl some_rest
        dsimp only at goes ⊢
        generalize Bytes.slice s.bytes offset rest.length = bs at length goes
        -- the rest of the loop is a copy behind what is copied now, into what is left of the buffer
        have later := ih (done ++ bs) (rest.drop bs.length) (by simp; omega) (by simp; omega)
        refine .next ?_ goes ?_
        · simp [whole]
          omega
        · simpa [Nat.add_assoc, Bytes.overlay] using later

/-! ## Longer copies -/

theorem copy_zero (img : Image) (fuel addr : Nat) : img.copy fuel addr 0 = [] := by
  cases fuel <;> simp [copy]

theorem take_slice (content : Array UInt8) (pos : Nat) (shorter : n ≤ m) :
    (Bytes.slice content pos m).take n = Bytes.slice content pos n := by
  rw [Bytes.slice_eq, Bytes.slice_eq, List.take_take, Nat.min_eq_left shorter]

/-- A shorter copy is the front of a longer one. -/
theorem take_copy {fuel' : Nat} (shorter : n ≤ m) (enough : n ≤ fuel) (enough' : m ≤ fuel') :
    (img.copy fuel' addr m).take n = img.copy fuel addr n := by
  induction fuel generalizing fuel' addr n m with
  | zero =>
    obtain rfl : n = 0 := by omega
    rfl
  | succ fuel ih =>
    by_cases none_asked : n = 0
    · rw [none_asked, copy_zero, List.take_zero]
    · obtain ⟨fuel', rfl⟩ := Nat.exists_eq_succ_of_ne_zero (n := fuel') (by omega)
      have some_asked : m ≠ 0 := by omega
      unfold copy
      simp only [none_asked, some_asked, false_or]
      split
      · rw [List.take_nil]
      · cases located : img.locate? addr with
        | none => exact List.take_nil
        | some found =>
          obtain ⟨s, offset⟩ := found
          have nonempty := locate?_lt located
          have length := Bytes.length_slice s.bytes offset n
          have length' := Bytes.length_slice s.bytes offset m
          have front := take_slice s.bytes offset shorter
          dsimp only
          generalize Bytes.slice s.bytes offset n = bs at length front
          generalize Bytes.slice s.bytes offset m = bs' at length' front
          -- the segment has all of the shorter copy, or both copies take all of it and go on behind it
          by_cases within : n ≤ bs'.length
          · have full : n - bs.length = 0 := by omega
            rw [full, copy_zero, List.append_nil, List.take_append_of_le_length within, front]
          · obtain rfl : bs' = bs := by rw [← front, List.take_of_length_le (by omega)]
            rw [List.take_append, List.take_of_length_le (by omega), ih (by omega) (by omega) (by omega)]

theorem read_prefix (img : Image) (addr : Nat) (shorter : n ≤ m) : img.read addr n <+: img.read addr m := by
  rw [read, ← take_copy shorter (Nat.le_refl n) (Nat.le_refl m)]
  exact List.take_prefix _ _

/-! ## Both walks -/

/-- A window of unknown size is read whole. -/
theorem read_create?_zero {w : Window} (accepted : Window.create? img.reader addr 0 = some w) (enough : w.size ≤ n) :
    (w.read img.reader n).1 = ⟨w.size, img.read addr w.size⟩ ∧ (img.read addr w.size).length = w.size := by
  obtain ⟨made, positive, -⟩ := Window.create?_eq_some_iff.1 accepted
  obtain rfl : w = { start := addr, size := img.extent addr } := made
  dsimp only at positive enough ⊢
  have whole : (img.read addr (img.extent addr)).length = img.extent addr := by rw [length_read, Nat.min_self]
  refine ⟨?_, whole⟩
  have wanted : min n (img.extent addr - 0) = img.extent addr := by omega
  have some_wanted : ¬ img.extent addr = 0 := by omega
  have copied : img.reader.read (addr + 0) (img.extent addr) = img.read addr (img.extent addr) := rfl
  simp only [Window.read, wanted, some_wanted, if_false, copied]
  cases bytes : img.read addr (img.extent addr) with
  | nil =>
    rw [bytes] at whole
    exact absurd whole.symm some_wanted
  | cons b bs =>
    rw [bytes] at whole
    rw [← whole]

/-- **Reading and measuring agree on every image** that mapping and unmapping make, whatever overlaps or is empty in it.
Measuring stops with the extent and keeps to the signed 64-bit range on the way; copying stops, and keeps to the buffer on
the way. What is copied is as long as the buffer or the extent, whichever is less, what is behind it in the buffer stays,
and it is the front of what a longer buffer gets. So a window of unknown size, if it is not refused, is read whole at
once. -/
theorem read_and_extent_agree (built : img.Built) (few : img.mappedBytes < 2 ^ 63) (addr : Nat) (buffer : Bytes) :
    let got := img.read addr buffer.length
    let after := Bytes.overlay buffer got
    Halts (img.measureRound addr) (· < 2 ^ 63) 0 (img.extent addr) ∧
      Halts (img.copyRound addr) (fun c => c.copied ≤ buffer.length ∧ c.buffer.length = buffer.length) ⟨buffer, 0⟩
        ⟨after, got.length⟩ ∧
      got.length = min buffer.length (img.extent addr) ∧
      (∀ i, got.length ≤ i → after[i]? = buffer[i]?) ∧
      (∀ longer : Bytes, buffer.length ≤ longer.length → got <+: img.read addr longer.length) ∧
      ∀ w, Window.create? img.reader addr 0 = some w → ∃ bs : Bytes,
        (Window.device img.reader).size w = bs.length ∧
          ∀ n, bs.length ≤ n → ((Window.device img.reader).read n w).1 = ⟨bs.length, bs⟩ := by
  intro got after
  have bounded : img.extent addr < 2 ^ 63 := Nat.lt_of_le_of_lt (built.extent_le addr) few
  refine ⟨?_, ?_, img.length_read addr buffer.length, ?_, fun longer => img.read_prefix addr, ?_⟩
  · have measured : 0 + img.extent (addr + 0) = img.extent addr := by rw [Nat.add_zero, Nat.zero_add]
    exact (halts_measure measured).imp fun k within => Nat.lt_of_le_of_lt within bounded
  · exact halts_copy [] buffer (Nat.le_refl buffer.length) (Nat.zero_add _)
  · intro i behind
    rw [Bytes.getElem?_overlay, if_neg (Nat.not_lt.2 behind)]
  · intro w accepted
    obtain ⟨-, whole⟩ := read_create?_zero accepted (Nat.le_refl w.size)
    refine ⟨img.read addr w.size, congrArg Int.ofNat whole.symm, fun n enough => ?_⟩
    rw [whole] at enough ⊢
    exact (read_create?_zero accepted enough).1

/-- A segment inside of another, an empty one behind it that hides the rest, and one that reaches over the last
address. -/
def overlapping : Image :=
  (((Image.map 16 #[1, 2, 3, 4, 5] []).map 18 #[9]).map 20 #[]).map (addressLimit - 1) #[7, 8]

theorem read_and_extent_agree_overlapping :
    overlapping.Built ∧ overlapping.mappedBytes < 2 ^ 63 ∧
      Halts (overlapping.measureRound 18) (· < 2 ^ 63) 0 1 ∧
      Halts (overlapping.copyRound 18) (fun c => c.copied ≤ 3 ∧ c.buffer.length = 3) ⟨[0, 0, 0], 0⟩ ⟨[9, 0, 0], 1⟩ ∧
      ∃ bs : Bytes, (Window.device overlapping.reader).size { start := 16, size := 5 } = bs.length ∧
        ((Window.device overlapping.reader).read 64 { start := 16, size := 5 }).1 = ⟨bs.length, bs⟩ := by
  have built : overlapping.Built := (((Built.empty.map _ _).map _ _).map _ _).map _ _
  have few : overlapping.mappedBytes < 2 ^ 63 := by decide
  have measured : overlapping.extent 18 = 1 := by cbv
  have copied : overlapping.read 18 3 = [9] := by decide
  obtain ⟨measuring, copying, -⟩ := read_and_extent_agree built few 18 [0, 0, 0]
  rw [measured] at measuring
  obtain ⟨-, -, -, -, -, window⟩ := read_and_extent_agree built few 16 []
  obtain ⟨bs, size, read⟩ := window { start := 16, size := 5 } (by cbv)
  have five : 5 = bs.length := Int.ofNat.inj size
  refine ⟨built, few, measuring, ?_, bs, size, read 64 (by omega)⟩
  simpa [copied, Bytes.overlay] using copying

end Image
end ScriptStreams
