import ScriptStreams.Proofs.Registry
import ScriptStreams.Proofs.Simulation
import ScriptStreams.World
/-!
# The stream behind a reference

A live stream of the table answers as its source does among what surrounds it (`World.Stands`,
`simulates_source`), and nothing else in the world matters to it: not the other streams, the lock, the log or
the order in which open files are kept (`World.Alike`, `simulates_alike`).
-/
namespace ScriptStreams

/-! ## What surrounds a source -/

/-- Environments in which all look-ups are the same. -/
structure Environment.Alike (env env' : Environment) : Prop where
  files : env.files = env'.files
  image : env.image = env'.image
  openFiles : ∀ n, env.openFiles.get? n = env'.openFiles.get? n

theorem Environment.alike_refl (env : Environment) : env.Alike env := ⟨rfl, rfl, fun _ => rfl⟩

theorem Environment.Alike.trans {env env' env'' : Environment} (h : env.Alike env') (h' : env'.Alike env'') :
    env.Alike env'' where
  files := h.files.trans h'.files
  image := h.image.trans h'.image
  openFiles n := (h.openFiles n).trans (h'.openFiles n)

theorem Environment.Alike.set {env env' : Environment} (h : env.Alike env') (n : Nat) (f : OpenFile) :
    Alike { env with openFiles := env.openFiles.set n f } { env' with openFiles := env'.openFiles.set n f } where
  files := h.files
  image := h.image
  openFiles k := by
    dsimp only
    rw [Keyed.get?_set, Keyed.get?_set, h.openFiles k]

/-- Putting an open file back as it is changes no look-up. -/
theorem Environment.alike_set {env : Environment} {n : Nat} {f : OpenFile} (h : env.openFiles.get? n = some f) :
    Alike { env with openFiles := env.openFiles.set n f } env where
  files := rfl
  image := rfl
  openFiles k := by
    dsimp only
    rw [Keyed.get?_set]
    split
    · next hk => rw [← hk, h]
    · rfl

theorem OpenFile.seek_of_neg {fs : Files} {offset : Int} {whence : Whence} {f : OpenFile}
    (h : (f.seek fs offset whence).1 < 0) : (f.seek fs offset whence).2 = f := by
  cases f with
  | pipe pending => rfl
  | file id mode pos =>
    simp only [seek] at h ⊢
    split at h
    · exact absurd h (Int.not_lt.2 (Int.natCast_nonneg _))
    · rfl
  | directory pos =>
    simp only [seek] at h ⊢
    split at h
    · exact absurd h (Int.not_lt.2 (Int.natCast_nonneg _))
    · rfl

namespace Source

/-- The same source among surroundings that are alike. -/
def Alike (x y : Source × Environment) : Prop := x.1 = y.1 ∧ x.2.Alike y.2

theorem Alike.trans {x y z : Source × Environment} (h : Alike x y) (h' : Alike y z) : Alike x z :=
  ⟨h.1.trans h'.1, h.2.trans h'.2⟩

theorem simulates_alike : device.Simulates device Alike where
  seek offset whence x y h := by
    obtain ⟨source, env⟩ := x
    obtain ⟨source', env'⟩ := y
    obtain ⟨rfl, alike⟩ : source = source' ∧ env.Alike env' := h
    cases source with
    | file id pos =>
      simp only [device, seek, alike.files]
      split <;> exact ⟨rfl, rfl, alike⟩
    | shared n =>
      simp only [device, seek, alike.files, alike.openFiles n]
      split
      · next f _ =>
        exact ⟨rfl, rfl, by simpa only [alike.files] using alike.set n (f.seek env'.files offset whence).2⟩
      · exact ⟨rfl, rfl, alike⟩
    | window w => exact ⟨rfl, rfl, alike⟩
    | supplied s => exact ⟨rfl, rfl, alike⟩
  size {x y} h := by
    obtain ⟨source, env⟩ := x
    obtain ⟨source', env'⟩ := y
    obtain ⟨rfl, alike⟩ : source = source' ∧ env.Alike env' := h
    cases source <;> simp only [device, size, alike.files, alike.openFiles]
  read n x y h := by
    obtain ⟨source, env⟩ := x
    obtain ⟨source', env'⟩ := y
    obtain ⟨rfl, alike⟩ : source = source' ∧ env.Alike env' := h
    cases source with
    | file id pos =>
      simp only [device, read, alike.files]
      exact ⟨rfl, rfl, alike⟩
    | shared k =>
      simp only [device, read, alike.files, alike.openFiles k]
      split
      · next f _ => exact ⟨rfl, rfl, by simpa only [alike.files] using alike.set k (f.read env'.files n).2⟩
      · exact ⟨rfl, rfl, alike⟩
    | window w =>
      simp only [device, read, alike.image]
      exact ⟨rfl, rfl, alike⟩
    | supplied s => exact ⟨rfl, rfl, alike⟩

/-- A seek that gives no position leaves a source as it was. -/
theorem alike_of_seek_neg {x : Source × Environment} {offset : Int} {whence : Whence}
    (h : (seek offset whence x).1 < 0) : Alike (seek offset whence x).2 x := by
  obtain ⟨source, env⟩ := x
  cases source with
  | file id pos =>
    simp only [seek] at h ⊢
    split at h
    · exact absurd h (Int.not_lt.2 (Int.natCast_nonneg _))
    · exact ⟨rfl, env.alike_refl⟩
  | shared n =>
    simp only [seek] at h ⊢
    split at h
    · next f hf =>
      have stays : (f.seek env.files offset whence).2 = f := OpenFile.seek_of_neg h
      dsimp only
      rw [stays]
      exact ⟨rfl, Environment.alike_set hf⟩
    · exact ⟨rfl, env.alike_refl⟩
  | window w =>
    simp only [seek, Window.seek] at h ⊢
    split at h
    · exact absurd h (Int.not_lt.2 (Int.natCast_nonneg _))
    · exact ⟨rfl, env.alike_refl⟩
  | supplied s =>
    simp only [seek, Supplied.seek] at h ⊢
    split at h
    · exact absurd h (Int.not_lt.2 (Int.natCast_nonneg _))
    · exact ⟨rfl, env.alike_refl⟩

end Source

/-! ## Streams of a world -/

namespace World

/-- The stream of `r` is live, with this source and these surroundings. -/
def Stands (r : StreamRef) (w : World) (x : Source × Environment) : Prop :=
  (∃ o, w.table.entry? r = some ⟨o, x.1⟩) ∧ w.env = x.2

/-- Worlds in which `r` refers to the same source, or to none, among surroundings that are alike. -/
def Alike (r : StreamRef) (w w' : World) : Prop :=
  (w.table.entry? r).map (·.source) = (w'.table.entry? r).map (·.source) ∧ w.env.Alike w'.env

variable {α : Type} {r : StreamRef} {w w' : World} {x : Source × Environment}

theorem stands_of_entry {e : Entry} (entry : w.table.entry? r = some e) : Stands r w (e.source, w.env) :=
  ⟨⟨e.origin, entry⟩, rfl⟩

theorem Stands.withStream (h : Stands r w x) (f : Source × Environment → α × Source × Environment) :
    (w.withStream r f).1 = some (f x).1 ∧ Stands r (w.withStream r f).2 (f x).2 := by
  obtain ⟨⟨o, entry⟩, env⟩ := h
  obtain ⟨source, env'⟩ := x
  obtain rfl : w.env = env' := env
  unfold World.withStream
  rw [entry]
  refine ⟨rfl, ⟨o, ?_⟩, rfl⟩
  rw [Table.entry?_update entry, if_pos rfl]

/-- **A live stream is its source.** -/
theorem simulates_source (r : StreamRef) : (device r).Simulates Source.device (Stands r) where
  seek offset whence w x h := by
    obtain ⟨same, stands⟩ := h.withStream (Source.seek offset whence)
    exact ⟨by simp only [device, World.seek, same]; rfl, stands⟩
  size {w x} h := by
    obtain ⟨⟨o, entry⟩, env⟩ := h
    simp only [device, World.size, entry, env]
    rfl
  read n w x h := by
    obtain ⟨same, stands⟩ := h.withStream (Source.read n)
    exact ⟨by simp only [device, World.readBytes, same]; rfl, stands⟩

/-- A stream that is gone is a device that never moves. -/
theorem withStream_of_gone (gone : w.table.entry? r = none) (f : Source × Environment → α × Source × Environment) :
    w.withStream r f = (none, w) := by simp [World.withStream, gone]

theorem Alike.refl (r : StreamRef) (w : World) : Alike r w w := ⟨rfl, w.env.alike_refl⟩

/-- Worlds that are alike have no such stream, or streams with alike sources. -/
theorem Alike.cases (h : Alike r w w') :
    (w.table.entry? r = none ∧ w'.table.entry? r = none) ∨
      ∃ x y, Stands r w x ∧ Stands r w' y ∧ Source.Alike x y := by
  obtain ⟨same, env⟩ := h
  cases hw : w.table.entry? r with
  | none => exact .inl ⟨rfl, by simpa [hw] using same.symm⟩
  | some e =>
    rw [hw] at same
    obtain ⟨e', hw', source⟩ := Option.map_eq_some_iff.1 same.symm
    exact .inr ⟨(e.source, w.env), (e'.source, w'.env), stands_of_entry hw, stands_of_entry hw', source.symm, env⟩

theorem Stands.alike {y : Source × Environment} (h : Stands r w x) (h' : Stands r w' y) (hxy : Source.Alike x y) :
    Alike r w w' := by
  obtain ⟨⟨o, entry⟩, env⟩ := h
  obtain ⟨⟨o', entry'⟩, env'⟩ := h'
  refine ⟨?_, ?_⟩
  · simp [entry, entry', hxy.1]
  · rw [env, env']
    exact hxy.2

/-- **Nothing else in the world matters** to a stream. -/
theorem simulates_alike (r : StreamRef) : (device r).Simulates (device r) (Alike r) where
  seek offset whence w w' h := by
    rcases h.cases with ⟨gone, gone'⟩ | ⟨x, y, hx, hy, hxy⟩
    · simp only [device, World.seek, withStream_of_gone gone, withStream_of_gone gone']
      exact ⟨rfl, h⟩
    · obtain ⟨same, stands⟩ := (simulates_source r).seek offset whence hx
      obtain ⟨same', stands'⟩ := (simulates_source r).seek offset whence hy
      obtain ⟨agree, alike⟩ := Source.simulates_alike.seek offset whence hxy
      exact ⟨same.trans (agree.trans same'.symm), stands.alike stands' alike⟩
  size {w w'} h := by
    rcases h.cases with ⟨gone, gone'⟩ | ⟨x, y, hx, hy, hxy⟩
    · simp only [device, World.size, gone, gone']
    · exact ((simulates_source r).size hx).trans ((Source.simulates_alike.size hxy).trans ((simulates_source r).size hy).symm)
  read n w w' h := by
    rcases h.cases with ⟨gone, gone'⟩ | ⟨x, y, hx, hy, hxy⟩
    · simp only [device, World.readBytes, withStream_of_gone gone, withStream_of_gone gone']
      exact ⟨rfl, h⟩
    · obtain ⟨same, stands⟩ := (simulates_source r).read n hx
      obtain ⟨same', stands'⟩ := (simulates_source r).read n hy
      obtain ⟨agree, alike⟩ := Source.simulates_alike.read n hxy
      exact ⟨same.trans (agree.trans same'.symm), stands.alike stands' alike⟩

/-- A seek that gives no position leaves the stream as it was. -/
theorem alike_of_seek_neg {offset : Int} {whence : Whence} (h : (w.seek r offset whence).1 < 0) :
    Alike r (w.seek r offset whence).2 w := by
  rcases (Alike.refl r w).cases with ⟨gone, -⟩ | ⟨x, -, hx, -, -⟩
  · simp only [World.seek, withStream_of_gone gone]
    exact .refl r w
  · obtain ⟨same, stands⟩ := (simulates_source r).seek offset whence hx
    refine stands.alike hx (Source.alike_of_seek_neg ?_)
    exact same ▸ h

/-! ## Calls -/

/-- The world that a call to a primitive finds: the lock is free in a window, and the call is recorded. -/
def atCall (w : World) (p : Primitive) : World :=
  { w with
    lock := w.lock.openWindow
    log := .windowOpened :: w.log
    calls := ⟨p, false⟩ :: w.calls }

theorem call_eq (w : World) (p : Primitive) (f : World → α × World) :
    w.call p f = ((f (w.atCall p)).1, { (f (w.atCall p)).2 with lock := (f (w.atCall p)).2.lock.acquire }) := rfl

theorem call_of_eq {w w' : World} {p : Primitive} {f : World → α × World} {a : α} (h : f (w.atCall p) = (a, w')) :
    w.call p f = (a, { w' with lock := w'.lock.acquire }) := by
  rw [call_eq, h]

/-- Logging leaves streams and loaded ranges alone. -/
theorem noteAll_keeps (w : World) (e : Option Event) :
    (w.noteAll e).table = w.table ∧ (w.noteAll e).env = w.env ∧ (w.noteAll e).space = w.space := by
  cases e <;> exact ⟨rfl, rfl, rfl⟩

theorem alike_atCall (w : World) (p : Primitive) (r : StreamRef) : Alike r (w.atCall p) w := .refl r w

end World
end ScriptStreams
