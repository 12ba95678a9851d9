import ScriptStreams.Proofs.DeviceAnswers
import ScriptStreams.Proofs.Extent
/-!
# Reads that come short

A file, a window of memory and a shared file that is open for reading deliver what is there from their position on and
move behind it (`Source.delivered`, `Source.transferred_read`); how much that is for any request follows from how much is
left (`Source.left`). So a read that comes short is the last one with data. It leaves the stream at its end, but for
a window whose memory is not mapped throughout: there a read stops in front of the hole (`Source.StopsInside`,
`Handle.read_short`).
-/
namespace ScriptStreams

theorem Device.transferred_of_count {σ : Type} {n : Nat} {bs : Bytes} {count : Int} (short : bs.length ≤ n)
    (counted : count = bs.length ∨ bs = [] ∧ count ≤ 0) (s : σ) :
    Device.transferred n (· ≤ 0) (⟨count, bs⟩, s) = (if bs = [] then none else some bs, s) := by
  rcases counted with rfl | ⟨rfl, nothing⟩
  · have front : ((Bytes.filled n bs).take bs.length) = bs := by
      rw [Bytes.filled, List.take_take, Nat.min_eq_left short, Bytes.take_overlay]
    cases bs with
    | nil => rfl
    | cons b bs =>
      have positive : ¬ ((b :: bs).length : Int) ≤ 0 := by
        rw [List.length_cons]
        omega
      simp only [transferred, if_neg positive, Int.toNat_natCast, front, if_neg (List.cons_ne_nil b bs)]
  · simp only [transferred, if_pos nothing, if_pos]

theorem landing_current {pos : Nat} (size : Nat) (inside : pos ≤ maxPosition) :
    landing pos size 0 .current = some pos := by
  have within : 0 ≤ ((Whence.current.base pos size : Nat) : Int) + 0 ∧
      ((Whence.current.base pos size : Nat) : Int) + 0 ≤ maxPosition := by
    simp only [Whence.base]
    omega
  unfold landing
  rw [if_pos within]
  simp [Whence.base]

namespace Source

/-! ## What is left of a source -/

/-- Sources that deliver what there is: files, windows of memory, and shared files that are open for reading. -/
def Ordinary : Source × Environment → Prop
  | (.file _ _, _) | (.window _, _) => True
  | (.shared k, env) => ∃ id mode pos, env.openFiles.get? k = some (.file id mode pos) ∧ mode.readable = true
  | (.supplied _, _) => False

/-- Where the source stands. -/
def standing : Source × Environment → Nat
  | (.file _ pos, _) => pos
  | (.shared k, env) => match env.openFiles.get? k with
    | some (.file _ _ pos) => pos
    | _ => 0
  | (.window w, _) => w.pos
  | (.supplied s, _) => s.pos

/-- The source `k` bytes further on. -/
def advance (k : Nat) : Source × Environment → Source × Environment
  | (.file id pos, env) => (.file id (pos + k), env)
  | (.shared n, env) => match env.openFiles.get? n with
    | some (.file id mode pos) => (.shared n, { env with openFiles := env.openFiles.set n (.file id mode (pos + k)) })
    | _ => (.shared n, env)
  | (.window w, env) => (.window { w with pos := w.pos + k }, env)
  | (.supplied s, env) => (.supplied { s with pos := s.pos + k }, env)

/-- The bytes that a read of `n` bytes delivers. -/
def delivered (n : Nat) : Source × Environment → Bytes
  | (.file id pos, env) => Bytes.slice (env.files.content id) pos n
  | (.shared k, env) => match env.openFiles.get? k with
    | some (.file id _ pos) => Bytes.slice (env.files.content id) pos n
    | _ => []
  | (.window w, env) => env.image.read (w.start + w.pos) (min n (w.size - w.pos))
  | (.supplied _, _) => []

/-- How many bytes there are from the position on before the source ends or memory is not mapped. -/
def left : Source × Environment → Nat
  | (.file id pos, env) => env.files.size id - pos
  | (.shared k, env) => match env.openFiles.get? k with
    | some (.file id _ pos) => env.files.size id - pos
    | _ => 0
  | (.window w, env) => min (w.size - w.pos) (env.image.extent (w.start + w.pos))
  | (.supplied _, _) => 0

/-- A read of `n` bytes of a window gets to memory that is not mapped. -/
def StopsInside (n : Nat) : Source × Environment → Prop
  | (.window w, env) => env.image.extent (w.start + w.pos) < min n (w.size - w.pos)
  | _ => False

variable {x : Source × Environment}

theorem length_delivered (x : Source × Environment) (n : Nat) : (delivered n x).length = min n (left x) := by
  obtain ⟨source, env⟩ := x
  cases source with
  | file id pos => exact Bytes.length_slice _ pos n
  | shared k =>
    simp only [delivered, left]
    split
    · exact Bytes.length_slice _ _ n
    · simp
  | window w =>
    simp only [delivered, left, Image.length_read]
    omega
  | supplied s => simp [delivered, left]

theorem delivered_eq_nil_iff {n : Nat} : delivered n x = [] ↔ n = 0 ∨ left x = 0 := by
  rw [← List.length_eq_zero_iff, length_delivered]
  omega

theorem window_read_eq (w : Window) (env : Environment) (n : Nat) :
    ∃ count : Int, w.read env.image.reader n =
        (⟨count, delivered n (.window w, env)⟩, { w with pos := w.pos + (delivered n (.window w, env)).length }) ∧
      (count = (delivered n (.window w, env)).length ∨ delivered n (.window w, env) = [] ∧ count ≤ 0) := by
  have copied : env.image.reader.read (w.start + w.pos) (min n (w.size - w.pos)) = delivered n (.window w, env) := rfl
  simp only [Window.read, copied]
  split
  · next nothing_wanted =>
    have nothing : delivered n (.window w, env) = [] := by
      rw [delivered, nothing_wanted]
      rfl
    rw [nothing]
    exact ⟨0, rfl, .inl rfl⟩
  · generalize delivered n (.window w, env) = bs
    cases bs with
    | nil => exact ⟨-1, rfl, .inr ⟨rfl, by decide⟩⟩
    | cons b bs => exact ⟨_, rfl, .inl rfl⟩

/-- A read puts down what is delivered, counts it, and moves behind it. -/
theorem read_eq (ordinary : Ordinary x) (n : Nat) :
    ∃ count : Int, Source.read n x = (⟨count, delivered n x⟩, advance (delivered n x).length x) ∧
      (count = (delivered n x).length ∨ delivered n x = [] ∧ count ≤ 0) := by
  obtain ⟨source, env⟩ := x
  cases source with
  | file id pos =>
    refine ⟨_, ?_, .inl rfl⟩
    simp only [Source.read, fill_deliverFile]
    rfl
  | shared k =>
    obtain ⟨id, mode, pos, found, readable⟩ := ordinary
    refine ⟨_, ?_, .inl rfl⟩
    simp only [Source.read, delivered, advance, found, OpenFile.read_file readable]
  | window w =>
    obtain ⟨count, read, counted⟩ := window_read_eq w env n
    refine ⟨count, ?_, counted⟩
    simp only [Source.read, read]
    rfl
  | supplied s => exact ordinary.elim

theorem transferred_read (ordinary : Ordinary x) (n : Nat) :
    Device.transferred n (· ≤ 0) (Source.read n x) =
      (if delivered n x = [] then none else some (delivered n x), advance (delivered n x).length x) := by
  obtain ⟨count, read, counted⟩ := read_eq ordinary n
  have short := length_delivered x n
  rw [read, Device.transferred_of_count (by omega) counted]

/-! ## Further on -/

theorem ordinary_advance (ordinary : Ordinary x) (k : Nat) : Ordinary (advance k x) := by
  obtain ⟨source, env⟩ := x
  cases source with
  | file | window => exact trivial
  | shared n =>
    obtain ⟨id, mode, pos, found, readable⟩ := ordinary
    simp only [advance, found]
    exact ⟨id, mode, pos + k, Keyed.get?_set_self _ _ _, readable⟩
  | supplied s => exact ordinary.elim

theorem standing_advance (ordinary : Ordinary x) (k : Nat) : standing (advance k x) = standing x + k := by
  obtain ⟨source, env⟩ := x
  cases source with
  | file | window => rfl
  | shared n =>
    obtain ⟨id, mode, pos, found, -⟩ := ordinary
    simp only [advance, standing, found, Keyed.get?_set_self]
  | supplied s => exact ordinary.elim

theorem size_advance (ordinary : Ordinary x) (k : Nat) : Source.size (advance k x) = Source.size x := by
  obtain ⟨source, env⟩ := x
  cases source with
  | file | window => rfl
  | shared n =>
    obtain ⟨id, mode, pos, found, -⟩ := ordinary
    simp only [advance, Source.size, found, Keyed.get?_set_self, Option.map_some, OpenFile.size]
  | supplied s => exact ordinary.elim

/-- Behind all that is left there is nothing. -/
theorem left_behind (ordinary : Ordinary x) : left (advance (left x) x) = 0 := by
  obtain ⟨source, env⟩ := x
  cases source with
  | file id pos =>
    simp only [advance, left]
    omega
  | shared k =>
    obtain ⟨id, mode, pos, found, -⟩ := ordinary
    simp only [advance, left, found, Keyed.get?_set_self]
    omega
  | window w =>
    simp only [advance, left]
    -- what stopped the window stops it again: its end, or the hole behind the extent
    rcases Nat.le_total (w.size - w.pos) (env.image.extent (w.start + w.pos)) with ends | hole
    · rw [Nat.min_eq_left ends]
      omega
    · rw [Nat.min_eq_right hole, ← Nat.add_assoc, Image.extent_behind, Nat.min_zero]
  | supplied s => exact ordinary.elim

/-- What is left ends within the source, and in front of the end if a read gets to memory that is not mapped. -/
theorem left_lt_iff (ordinary : Ordinary x) (some_left : 0 < left x) (n : Nat) :
    (standing x + left x : Nat) ≤ Source.size x ∧
      (left x < n ∧ (standing x + left x : Nat) < Source.size x ↔ StopsInside n x) := by
  obtain ⟨source, env⟩ := x
  cases source with
  | file id pos =>
    simp only [left, standing, Source.size, StopsInside, iff_false] at some_left ⊢
    omega
  | shared k =>
    obtain ⟨id, mode, pos, found, -⟩ := ordinary
    simp only [left, standing, Source.size, StopsInside, found, Option.map_some, Option.getD_some, OpenFile.size,
      iff_false] at some_left ⊢
    omega
  | window w =>
    simp only [left, standing, Source.size, StopsInside] at some_left ⊢
    omega
  | supplied s => exact ordinary.elim

end Source

namespace World

variable {r : StreamRef} {w : World} {x : Source × Environment}

theorem Stands.size_eq (stands : Stands r w x) : w.size r = Source.size x := (simulates_source r).size stands

/-- The position of a stream is where its source stands, unless that is too far for a position. -/
theorem Stands.position_eq (stands : Stands r w x) (ordinary : Source.Ordinary x)
    (inside : Source.standing x ≤ maxPosition) : w.position r = Source.standing x := by
  have told : w.position r = (Source.device.tell x).1 := ((simulates_source r).tell stands).1
  rw [told]
  obtain ⟨source, env⟩ := x
  cases source with
  | file id pos =>
    have lands := landing_current (env.files.size id) inside
    simp only [Source.standing] at lands ⊢
    simp only [Device.tell, Source.device, Source.seek, lands]
  | shared n =>
    obtain ⟨id, mode, pos, found, -⟩ := ordinary
    simp only [Source.standing, found] at inside ⊢
    simp only [Device.tell, Source.device, Source.seek, found, OpenFile.seek, landing_current _ inside]
  | window v =>
    have lands := landing_current v.size inside
    simp only [Source.standing] at lands ⊢
    simp only [Device.tell, Source.device, Source.seek, Window.seek, lands]
  | supplied s => exact ordinary.elim

end World

namespace Handle

variable {h : Handle} {r : StreamRef} {n : Nat} {others : StreamRef → Option Entry} {v w : World}
  {x : Source × Environment}

/-- **A read of an ordinary stream**, if it may have its scratch buffer. -/
theorem read_of_grants (ref : h.ref? = some r) (amid : World.Amid r v others w x) (ordinary : Source.Ordinary x)
    (granted : v.grants n = true) :
    let bs := Source.delivered n x
    (h.read n w).1 = .ok (if bs = [] then none else some bs) ∧
      World.Amid r v others (h.read n w).2 (Source.advance bs.length x) := by
  obtain ⟨data, w', called, same, after⟩ := amid_read ref amid n
  rw [Device.granted, if_pos granted, Source.transferred_read ordinary] at same after
  rw [called]
  exact ⟨congrArg Except.ok same, after⟩

theorem read_of_not_grants (ref : h.ref? = some r) (amid : World.Amid r v others w x)
    (refused : ¬ v.grants n = true) : (h.read n w).1 = .ok none := by
  obtain ⟨data, w', called, same, -⟩ := amid_read ref amid n
  rw [Device.granted, if_neg refused] at same
  rw [called]
  exact congrArg Except.ok same

/-- Where nothing is left a read gives no data. -/
theorem read_of_left_eq_zero (ref : h.ref? = some r) (amid : World.Amid r v others w x)
    (ordinary : Source.Ordinary x) (nothing : Source.left x = 0) (n : Nat) : (h.read n w).1 = .ok none := by
  by_cases granted : v.grants n = true
  · have empty : Source.delivered n x = [] := Source.delivered_eq_nil_iff.2 (.inr nothing)
    rw [(read_of_grants ref amid ordinary granted).1, if_pos empty]
  · exact read_of_not_grants ref amid granted

/-- **Reads that come short.** Let a handle be on a file, a window of memory or a shared file that is open for reading,
wherever it stands. A read that gives data gives at least one byte and no more than were asked for, and moves the stream
behind them. If it comes short it is the last with data: every read after it gives none. It comes short in front of the
end if and only if the stream is a window and memory is not mapped up to where the read was to end. -/
theorem read_short (ref : h.ref? = some r) (stands : w.Stands r x) (ordinary : Source.Ordinary x)
    (fits : w.size r ≤ maxPosition) (pool : w.pool.Sound) {bs : Bytes}
    (data : (h.read n w).1 = .ok (some bs)) :
    let after := (h.read n w).2
    1 ≤ bs.length ∧ bs.length ≤ n ∧ after.position r = w.position r + bs.length ∧
      (bs.length < n → ∀ m, (h.read m after).1 = .ok none) ∧
      (bs.length < n ∧ after.position r < after.size r ↔ Source.StopsInside n x) := by
  intro after
  have amid := stands.amid pool
  have granted : w.grants n = true := by
    by_contra refused
    rw [read_of_not_grants ref amid refused] at data
    cases data
  obtain ⟨read, moved⟩ := read_of_grants ref amid ordinary granted
  have length := Source.length_delivered x n
  have nonempty : bs ≠ [] ∧ Source.delivered n x = bs := by
    rw [read] at data
    split at data
    · cases data
    · next some_bytes =>
      cases data
      exact ⟨some_bytes, rfl⟩
  obtain ⟨nonempty, rfl⟩ := nonempty
  have positive := List.length_pos_of_ne_nil nonempty
  obtain ⟨ends, stops⟩ := Source.left_lt_iff ordinary (by omega) n
  have size : w.size r = Source.size x := stands.size_eq
  have size' : after.size r = Source.size x :=
    moved.stands.size_eq.trans (Source.size_advance ordinary _)
  have before : w.position r = Source.standing x := stands.position_eq ordinary (by omega)
  have behind : after.position r = (Source.standing x + (Source.delivered n x).length : Nat) := by
    rw [← Source.standing_advance ordinary]
    refine moved.stands.position_eq (Source.ordinary_advance ordinary _) ?_
    rw [Source.standing_advance ordinary]
    omega
  refine ⟨positive, by omega, by rw [behind, before]; rfl, fun short m => ?_, ?_⟩
  · have all : (Source.delivered n x).length = Source.left x := by omega
    rw [all] at moved
    exact read_of_left_eq_zero ref moved (Source.ordinary_advance ordinary _) (Source.left_behind ordinary) m
  · rw [← stops, behind, size', length]
    omega

/-- A window of sixteen bytes, of which eight are mapped. -/
def halfMapped : World :=
  (World.register { env := { image := [⟨4096, (Bytes.counting 97 8).toArray⟩] } } .created
    (.window { start := 4096, size := 16 })).2

theorem read_short_halfMapped :
    let h := Handle.borrow .first
    let after := (h.read 16 halfMapped).2
    (h.read 16 halfMapped).1 = .ok (some (Bytes.counting 97 8)) ∧ after.position .first = 8 ∧
      ∀ m, (h.read m after).1 = .ok none := by
  intro h after
  have stands : halfMapped.Stands .first (.window { start := 4096, size := 16 }, halfMapped.env) :=
    ⟨⟨.created, rfl⟩, rfl⟩
  have data : (h.read 16 halfMapped).1 = .ok (some (Bytes.counting 97 8)) := by decide
  obtain ⟨-, -, position, last, -⟩ := read_short rfl stands trivial (by decide) Scratch.Pool.sound_empty data
  exact ⟨data, position, last (by decide)⟩

/-- **In front of the end** eight of sixteen bytes are read. -/
theorem read_halfMapped_stops :
    let h := Handle.borrow .first
    let after := (h.read 16 halfMapped).2
    (h.read 16 halfMapped).1 = .ok (some (Bytes.counting 97 8)) ∧ (Bytes.counting 97 8).length < 16 ∧
      after.position .first = 8 ∧ after.size .first = 16 := by
  decide

end Handle
end ScriptStreams
