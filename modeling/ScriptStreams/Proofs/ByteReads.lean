import ScriptStreams.Proofs.ByteMap
import ScriptStreams.Proofs.ShortReads
/-!
# Reading byte after byte

A read of many bytes copies whole slices, a read of one byte looks up where it is. Of a file, and of a window over an
image without overlaps, however full of holes, both see the same bytes: what is delivered is the next byte and then what
is delivered behind it (`Source.Bytewise.delivered_cons`). So a handle that asks for byte after byte, until there is none
or it has as many as it wants (`Handle.readEach`), gets what one read gives, and stands where that leaves it
(`Handle.read_eq_readEach`).
-/
namespace ScriptStreams

theorem Bytes.slice_cons {content : Array UInt8} {pos : Nat} {b : UInt8} (first : slice content pos 1 = [b]) (n : Nat) :
    slice content pos (n + 1) = b :: slice content (pos + 1) n := by
  rw [slice_eq] at first
  rw [slice_eq, slice_eq, ← List.tail_drop]
  cases there : content.toList.drop pos with
  | nil => simp [there] at first
  | cons b' rest =>
    obtain rfl : b' = b := by simpa [there] using first
    rfl

namespace Source

variable {x : Source × Environment} {b : UInt8}

/-- A source of which each byte has one place: a file, a shared file that is open for reading, or a window over an image
whose segments are not empty, share no address and end within the address space. -/
structure Bytewise (x : Source × Environment) : Prop where
  ordinary : Ordinary x
  image : ∀ w, x.1 = .window w → x.2.image.Plain ∧ x.2.image.Tidy

/-! ## One byte further on -/

theorem image_advance (x : Source × Environment) (k : Nat) : (advance k x).2.image = x.2.image := by
  obtain ⟨source, env⟩ := x
  cases source with
  | shared n =>
    simp only [advance]
    split <;> rfl
  | file | window | supplied => rfl

theorem window_of_advance {k : Nat} {w : Window} (h : (advance k x).1 = .window w) : ∃ v, x.1 = .window v := by
  obtain ⟨source, env⟩ := x
  cases source with
  | window v => exact ⟨v, rfl⟩
  | shared n =>
    simp only [advance] at h
    split at h <;> cases h
  | file | supplied => cases h

theorem Bytewise.advance (bytewise : Bytewise x) (k : Nat) : Bytewise (advance k x) where
  ordinary := ordinary_advance bytewise.ordinary k
  image w h := by
    obtain ⟨v, hv⟩ := window_of_advance h
    rw [image_advance]
    exact bytewise.image v hv

theorem advance_advance (ordinary : Ordinary x) (j k : Nat) :
    Source.advance k (Source.advance j x) = Source.advance (j + k) x := by
  obtain ⟨source, env⟩ := x
  cases source with
  | file | window => simp only [Source.advance, Nat.add_assoc]
  | shared n =>
    obtain ⟨id, mode, pos, found, -⟩ := ordinary
    simp only [Source.advance, found, Keyed.get?_set_self, Keyed.set_set, Nat.add_assoc]
  | supplied s => exact ordinary.elim

theorem alike_advance_zero (ordinary : Ordinary x) : Alike (Source.advance 0 x) x := by
  obtain ⟨source, env⟩ := x
  cases source with
  | file | window => exact ⟨rfl, env.alike_refl⟩
  | shared n =>
    obtain ⟨id, mode, pos, found, -⟩ := ordinary
    simp only [Source.advance, found, Nat.add_zero]
    exact ⟨rfl, Environment.alike_set found⟩
  | supplied s => exact ordinary.elim

/-! ## Byte after byte -/

theorem delivered_one (x : Source × Environment) : delivered 1 x = [] ∨ ∃ b, delivered 1 x = [b] := by
  have short := length_delivered x 1
  cases first : delivered 1 x with
  | nil => exact .inl rfl
  | cons b more =>
    rw [first, List.length_cons] at short
    obtain rfl : more = [] := List.length_eq_zero_iff.1 (by omega)
    exact .inr ⟨b, rfl⟩

/-- The next byte is the one that a read of one byte delivers. -/
theorem nextByte_eq (ordinary : Ordinary x) :
    device.nextByte x = ((delivered 1 x).head?, Source.advance (delivered 1 x).length x) := by
  obtain ⟨count, read, counted⟩ := read_eq ordinary 1
  simp only [Device.nextByte, device, read]
  rcases delivered_one x with ended | ⟨b, first⟩
  · have uncounted : count ≠ 1 := by
      rcases counted with rfl | ⟨-, nothing⟩
      · rw [ended]
        decide
      · omega
    rw [if_neg uncounted, ended]
    rfl
  · have counted_one : count = 1 := by
      rcases counted with rfl | ⟨empty, -⟩
      · rw [first]
        rfl
      · rw [first] at empty
        cases empty
    rw [if_pos counted_one, first]
    rfl

theorem delivered_of_nil (ended : delivered 1 x = []) (n : Nat) : delivered n x = [] :=
  delivered_eq_nil_iff.2 (.inr ((delivered_eq_nil_iff.1 ended).resolve_left Nat.one_ne_zero))

/-- **A read sees the bytes that single reads see**, across the borders of segments too. -/
theorem Bytewise.delivered_cons (bytewise : Bytewise x) (first : delivered 1 x = [b]) (n : Nat) :
    delivered (n + 1) x = b :: delivered n (Source.advance 1 x) := by
  obtain ⟨ordinary, image⟩ := bytewise
  obtain ⟨source, env⟩ := x
  cases source with
  | file id pos => exact Bytes.slice_cons first n
  | shared k =>
    obtain ⟨id, mode, pos, found, -⟩ := ordinary
    simp only [delivered, found] at first
    simp only [delivered, Source.advance, found, Keyed.get?_set_self]
    exact Bytes.slice_cons first n
  | window w =>
    obtain ⟨plain, tidy⟩ := image w rfl
    simp only [delivered, plain.read_eq_run tidy] at first
    simp only [delivered, Source.advance, plain.read_eq_run tidy]
    -- a byte was delivered, so the window does not end here and what is wanted of it goes down by one
    have inside : w.pos < w.size := by
      by_contra outside
      rw [show min 1 (w.size - w.pos) = 0 by omega] at first
      cases first
    rw [show min 1 (w.size - w.pos) = 0 + 1 by omega] at first
    rw [show min (n + 1) (w.size - w.pos) = min n (w.size - (w.pos + 1)) + 1 by omega, ← Nat.add_assoc]
    cases there : env.image.byteAt? (w.start + w.pos) with
    | none =>
      rw [Image.run_of_none there] at first
      cases first
    | some b' =>
      rw [Image.run_of_some there] at first ⊢
      cases first
      rfl
  | supplied s => exact ordinary.elim

end Source

namespace Handle

/-- Ask for byte after byte, until there is none or `n` of them came. -/
def readEach (h : Handle) : Nat → World → Except StreamError Bytes × World
  | 0, w => (.ok [], w)
  | n + 1, w =>
    match h.readByte w with
    | (.error e, w) => (.error e, w)
    | (.ok none, w) => (.ok [], w)
    | (.ok (some b), w) =>
      let (rest, w) := h.readEach n w
      (rest.map (b :: ·), w)

variable {h : Handle} {r : StreamRef} {n : Nat} {others : StreamRef → Option Entry} {v w : World}
  {x : Source × Environment} {b : UInt8}

theorem readByte_eq (ref : h.ref? = some r) (amid : World.Amid r v others w x) (ordinary : Source.Ordinary x) :
    ∃ w', h.readByte w = (.ok (Source.delivered 1 x).head?, w') ∧
      World.Amid r v others w' (Source.advance (Source.delivered 1 x).length x) := by
  obtain ⟨byte, w', called, same, after⟩ := amid_readByte ref amid
  rw [Source.nextByte_eq ordinary] at same after
  obtain rfl : byte = (Source.delivered 1 x).head? := same
  exact ⟨w', called, after⟩

theorem readEach_of_nil (ref : h.ref? = some r) (amid : World.Amid r v others w x) (ordinary : Source.Ordinary x)
    (ended : Source.delivered 1 x = []) (n : Nat) :
    ∃ w', h.readEach (n + 1) w = (.ok [], w') ∧ World.Amid r v others w' (Source.advance 0 x) := by
  obtain ⟨w', called, after⟩ := readByte_eq ref amid ordinary
  rw [ended] at called after
  refine ⟨w', ?_, after⟩
  simp only [readEach, called, List.head?_nil]

theorem readEach_of_byte (ref : h.ref? = some r) (amid : World.Amid r v others w x) (ordinary : Source.Ordinary x)
    (first : Source.delivered 1 x = [b]) (n : Nat) :
    ∃ w', World.Amid r v others w' (Source.advance 1 x) ∧
      h.readEach (n + 1) w = ((h.readEach n w').1.map (b :: ·), (h.readEach n w').2) := by
  obtain ⟨w', called, after⟩ := readByte_eq ref amid ordinary
  rw [first] at called after
  refine ⟨w', after, ?_⟩
  simp only [readEach, called, List.head?_cons]

/-- **Byte after byte** comes what one read delivers, and the stream ends up where that would leave it. -/
theorem readEach_eq (ref : h.ref? = some r) (amid : World.Amid r v others w x) (bytewise : Source.Bytewise x) (n : Nat) :
    let bs := Source.delivered n x
    ∃ w' y, h.readEach n w = (.ok bs, w') ∧ World.Amid r v others w' y ∧
      Source.Alike (Source.advance bs.length x) y := by
  intro bs
  -- each byte is read from a world and a source one byte further on than the last
  induction n generalizing w x with
  | zero =>
    have nothing : bs = [] := Source.delivered_eq_nil_iff.2 (.inl rfl)
    rw [nothing]
    exact ⟨w, x, rfl, amid, Source.alike_advance_zero bytewise.ordinary⟩
  | succ n ih =>
    rcases Source.delivered_one x with ended | ⟨b, first⟩
    · have nothing : bs = [] := Source.delivered_of_nil ended (n + 1)
      obtain ⟨w', read, after⟩ := readEach_of_nil ref amid bytewise.ordinary ended n
      rw [nothing]
      exact ⟨w', _, read, after, rfl, Environment.alike_refl _⟩
    · have split : bs = b :: Source.delivered n (Source.advance 1 x) := bytewise.delivered_cons first n
      obtain ⟨w₁, amid₁, read⟩ := readEach_of_byte ref amid bytewise.ordinary first n
      obtain ⟨w', y, later, after, alike⟩ := ih amid₁ (bytewise.advance 1)
      rw [Source.advance_advance bytewise.ordinary, Nat.add_comm] at alike
      refine ⟨w', y, ?_, after, ?_⟩
      · rw [read, later, split]
        rfl
      · rwa [split, List.length_cons]

/-- **Bulk reads agree with byte reads.** Let a handle be on a file, on a shared file that is open for reading or on a
window of memory, wherever it stands; the image behind a window may have holes, and the window may be longer than what is
mapped, but the segments are not empty, share no address and end within the address space. Then one read of `n` bytes,
for which a scratch buffer is granted, gives just the bytes that `n` reads of a byte give up to the first that gives none,
and no data if that is no byte at all. Both leave the stream at the same position and in a state that no later read can
tell apart. -/
theorem read_eq_readEach (ref : h.ref? = some r) (stands : w.Stands r x) (ordinary : Source.Ordinary x)
    (image : ∀ v, x.1 = .window v → x.2.image.Built ∧ x.2.image.Plain) (pool : w.pool.Sound)
    (granted : w.grants n = true) :
    let whole := h.read n w
    let single := h.readEach n w
    ∃ bs, single.1 = .ok bs ∧ whole.1 = .ok (if bs = [] then none else some bs) ∧
      whole.2.position r = single.2.position r ∧ World.Alike r whole.2 single.2 := by
  intro whole single
  have amid := stands.amid pool
  have bytewise : Source.Bytewise x :=
    ⟨ordinary, fun v hv => ⟨(image v hv).2, (image v hv).2.tidy (image v hv).1⟩⟩
  obtain ⟨data, moved⟩ := read_of_grants ref amid ordinary granted
  obtain ⟨w', y, read, after, alike⟩ := readEach_eq ref amid bytewise n
  have same : World.Alike r whole.2 single.2 := by
    show World.Alike r whole.2 (h.readEach n w).2
    rw [read]
    exact moved.stands.alike after.stands alike
  have told : whole.2.position r = single.2.position r := ((World.simulates_alike r).tell same).1
  exact ⟨_, congrArg Prod.fst read, data, told, same⟩

/-- A window over two segments side by side, a hole and a third one, and over more that is not mapped. -/
def patched : World :=
  (World.register { env := { image := ((Image.map 16 #[1, 2] []).map 24 #[9]).map 18 #[3] } } .created
    (.window { start := 16, size := 64 })).2

theorem read_eq_readEach_patched :
    let h := Handle.borrow .first
    patched.grants 8 = true ∧ (h.readEach 8 patched).1 = .ok [1, 2, 3] ∧
      (h.read 8 patched).2.position .first = (h.readEach 8 patched).2.position .first := by
  intro h
  have ref : h.ref? = some .first := rfl
  have stands : patched.Stands .first (.window { start := 16, size := 64 }, patched.env) := ⟨⟨.created, rfl⟩, rfl⟩
  have built : patched.env.image.Built := ((Image.Built.empty.map _ _).map _ _).map _ _
  have plain : patched.env.image.Plain := ⟨by decide, Image.disjoint_of_apart (by decide), by decide⟩
  have granted : patched.grants 8 = true := by decide
  have read : (h.read 8 patched).1 = .ok (some [1, 2, 3]) := by decide
  obtain ⟨bs, single, whole, told, -⟩ :=
    read_eq_readEach ref stands trivial (fun _ _ => ⟨built, plain⟩) Scratch.Pool.sound_empty granted
  have given : bs = [1, 2, 3] := by
    rw [read] at whole
    split at whole
    · cases whole
    · cases whole
      rfl
  exact ⟨granted, given ▸ single, told⟩

end Handle
end ScriptStreams
