import ScriptStreams.Proofs.DeviceAnswers
/-!
# Streams that do not disturb each other

Steps on handles are taken in turn, on one stream and another (`World.takeTurns`). A stream answers them as if
only its own steps were taken, and ends at the same position, whatever the pool lent meanwhile, unless both
streams read through one shared open file (`World.independent`). A step on a stream changes no other entry of
the table, and of what surrounds the streams only its own open file (`Source.Spares`); and of the surroundings
a stream sees the files, the memory and its own open file (`Source.Matches`).
-/
namespace ScriptStreams

/-! ## What a source sees and what it changes -/

namespace Source

/-- The shared open file that a source reads through. -/
def openFile? : Source → Option Nat
  | shared n => some n
  | _ => none

/-- The same source among surroundings that it cannot tell apart. -/
structure Matches (x y : Source × Environment) : Prop where
  source : x.1 = y.1
  files : x.2.files = y.2.files
  image : x.2.image = y.2.image
  own : ∀ n, x.1.openFile? = some n → x.2.openFiles.get? n = y.2.openFiles.get? n

theorem Matches.refl (x : Source × Environment) : Matches x x := ⟨rfl, rfl, rfl, fun _ _ => rfl⟩

theorem simulates_matches : device.Simulates device Matches where
  seek offset whence x y h := by
    obtain ⟨source, env⟩ := x
    obtain ⟨source', env'⟩ := y
    obtain ⟨same, files, image, own⟩ := h
    dsimp only at same files image own
    subst same
    cases source with
    | file id pos =>
      simp only [device, seek, files]
      split <;> exact ⟨rfl, rfl, files, image, own⟩
    | shared n =>
      simp only [device, seek, files, own n rfl]
      split
      · refine ⟨rfl, rfl, rfl, image, ?_⟩
        rintro k ⟨⟩
        rw [Keyed.get?_set_self, Keyed.get?_set_self]
      · exact ⟨rfl, rfl, files, image, own⟩
    | window w => exact ⟨rfl, rfl, files, image, own⟩
    | supplied s => exact ⟨rfl, rfl, files, image, own⟩
  size {x y} h := by
    obtain ⟨source, env⟩ := x
    obtain ⟨source', env'⟩ := y
    obtain ⟨same, files, image, own⟩ := h
    dsimp only at same files image own
    subst same
    cases source with
    | file id pos => simp only [device, size, files]
    | shared n => simp only [device, size, files, own n rfl]
    | window w => rfl
    | supplied s => rfl
  read n x y h := by
    obtain ⟨source, env⟩ := x
    obtain ⟨source', env'⟩ := y
    obtain ⟨same, files, image, own⟩ := h
    dsimp only at same files image own
    subst same
    cases source with
    | file id pos =>
      simp only [device, read, files]
      exact ⟨rfl, rfl, files, image, own⟩
    | shared k =>
      simp only [device, read, files, own k rfl]
      split
      · refine ⟨rfl, rfl, rfl, image, ?_⟩
        rintro j ⟨⟩
        rw [Keyed.get?_set_self, Keyed.get?_set_self]
      · exact ⟨rfl, rfl, files, image, own⟩
    | window w =>
      simp only [device, read, image]
      exact ⟨rfl, rfl, files, image, own⟩
    | supplied s => exact ⟨rfl, rfl, files, image, own⟩

/-- What a source leaves as it is when it moves from one state to another. -/
structure Spares (x x' : Source × Environment) : Prop where
  openFile : x'.1.openFile? = x.1.openFile?
  files : x'.2.files = x.2.files
  image : x'.2.image = x.2.image
  others : ∀ n, x.1.openFile? ≠ some n → x'.2.openFiles.get? n = x.2.openFiles.get? n

theorem Spares.trans {x y z : Source × Environment} (first : Spares x y) (second : Spares y z) : Spares x z where
  openFile := second.openFile.trans first.openFile
  files := second.files.trans first.files
  image := second.image.trans first.image
  others n other := (second.others n (first.openFile ▸ other)).trans (first.others n other)

/-- Another open file in the place of a source's own. -/
theorem spares_own (n : Nat) (env : Environment) (f : OpenFile) :
    Spares (shared n, env) (shared n, { env with openFiles := env.openFiles.set n f }) := by
  refine ⟨rfl, rfl, rfl, fun k other => Keyed.get?_set_ne _ _ ?_⟩
  rintro rfl
  exact other rfl

theorem spares_seek (offset : Int) (whence : Whence) (x : Source × Environment) :
    Spares x (seek offset whence x).2 := by
  obtain ⟨source, env⟩ := x
  cases source with
  | file id pos =>
    simp only [seek]
    split <;> exact ⟨rfl, rfl, rfl, fun _ _ => rfl⟩
  | shared n =>
    simp only [seek]
    split
    · exact spares_own n env _
    · exact ⟨rfl, rfl, rfl, fun _ _ => rfl⟩
  | window w => exact ⟨rfl, rfl, rfl, fun _ _ => rfl⟩
  | supplied s => exact ⟨rfl, rfl, rfl, fun _ _ => rfl⟩

theorem spares_read (n : Nat) (x : Source × Environment) : Spares x (read n x).2 := by
  obtain ⟨source, env⟩ := x
  cases source with
  | shared k =>
    simp only [read]
    split
    · exact spares_own k env _
    · exact ⟨rfl, rfl, rfl, fun _ _ => rfl⟩
  | file id pos => exact ⟨rfl, rfl, rfl, fun _ _ => rfl⟩
  | window w => exact ⟨rfl, rfl, rfl, fun _ _ => rfl⟩
  | supplied s => exact ⟨rfl, rfl, rfl, fun _ _ => rfl⟩

/-- Whatever is read in a source, it spares the same. -/
theorem spares_of_reach {x y : Source × Environment} (reached : device.Reach x y) : Spares x y :=
  reached.preserves (P := Spares x) (fun offset whence z kept => kept.trans (spares_seek offset whence z))
    (fun n z kept => kept.trans (spares_read n z)) ⟨rfl, rfl, rfl, fun _ _ => rfl⟩

end Source

/-! ## One step -/

namespace World

/-- The shared open file behind a live stream, if it has one. -/
def backing? (w : World) (r : StreamRef) : Option (Option Nat) := (w.table.entry? r).map (·.source.openFile?)

/-- `q` is another live stream than `r`, and the two do not read through one shared open file. -/
structure Beside (r : StreamRef) (w : World) (q : StreamRef) : Prop where
  ne : q ≠ r
  live : w.backing? q ≠ none
  apart : ∀ n, w.backing? r = some (some n) → w.backing? q ≠ some (some n)

/-- Worlds in which a stream cannot tell where it is. -/
structure Twin (r : StreamRef) (w v : World) : Prop where
  stands : ∃ x y, Stands r w x ∧ Stands r v y ∧ Source.Matches x y
  pool : w.pool.Sound
  lends : w.LendsAs v

variable {w v : World} {r q : StreamRef}

theorem exists_stands (live : w.backing? q ≠ none) : ∃ x, Stands q w x := by
  unfold backing? at live
  cases found : w.table.entry? q with
  | none => simp [found] at live
  | some e => exact ⟨(e.source, w.env), stands_of_entry found⟩

theorem Stands.backing? {x : Source × Environment} (stands : Stands q w x) : w.backing? q = some x.1.openFile? := by
  obtain ⟨⟨o, found⟩, -⟩ := stands
  simp [World.backing?, found]

end World

namespace Handle

variable {h : Handle} {w v : World} {r q : StreamRef} {x : Source × Environment} {step : ReadStep}

/-- A step on a live stream leads on in it alone. -/
theorem perform_spares (hq : h.ref? = some q) (stands : w.Stands q x) (pool : w.pool.Sound)
    (plain : step.onStream = true) :
    ∃ x', (step.perform h w).2.Stands q x' ∧ Source.Spares x x' ∧
      (∀ r, q ≠ r → (step.perform h w).2.table.entry? r = w.table.entry? r) ∧
      w.LendsAs (step.perform h w).2 := by
  obtain ⟨-, after⟩ := agree_answer hq (stands.amid pool) plain
  have reached := Source.device.reach_answer w.grants x step
  exact ⟨_, after.stands, Source.spares_of_reach reached, after.others, after.lends⟩

/-- No stream comes to another open file. -/
theorem backing?_perform (hq : h.ref? = some q) (stands : w.Stands q x) (pool : w.pool.Sound)
    (plain : step.onStream = true) (r : StreamRef) : (step.perform h w).2.backing? r = w.backing? r := by
  obtain ⟨x', stands', spares, others, -⟩ := perform_spares hq stands pool plain
  by_cases same : q = r
  · subst same
    rw [stands'.backing?, stands.backing?, spares.openFile]
  · unfold World.backing?
    rw [others r same]

/-- **A step on the stream** is answered alike in worlds that the stream cannot tell apart. -/
theorem twin_perform (hr : h.ref? = some r) (twin : w.Twin r v) (plain : step.onStream = true) :
    Agree (World.Twin r) (step.perform h w) (step.perform h v) := by
  obtain ⟨⟨x, y, stands, stands', same⟩, pool, lends⟩ := twin
  obtain ⟨answer, after⟩ := agree_answer hr (stands.amid pool) plain
  obtain ⟨answer', after'⟩ := agree_answer hr (stands'.amid lends.pool) plain
  obtain ⟨agree, same'⟩ := Source.simulates_matches.answer w.grants same step
  rw [lends.grants] at answer' after'
  refine ⟨answer.trans (agree.trans answer'.symm), ?_⟩
  exact ⟨⟨_, _, after.stands, after'.stands, same'⟩, after.lends.pool,
    (after.lends.symm pool).trans (lends.trans after'.lends)⟩

/-- **A step on a stream beside it** is not noticed by the stream. -/
theorem twin_beside (hq : h.ref? = some q) (beside : w.Beside r q) (twin : w.Twin r v) (plain : step.onStream = true) :
    World.Twin r (step.perform h w).2 v := by
  obtain ⟨⟨x, y, stands, stands', same⟩, pool, lends⟩ := twin
  obtain ⟨z, standing⟩ := World.exists_stands beside.live
  obtain ⟨z', standing', spares, others, lends'⟩ := perform_spares hq standing pool plain
  have around : z.2 = x.2 := standing.2.symm.trans stands.2
  -- the stream's own open file, if it has one, is not the one that the step may have moved
  have apart : ∀ n, x.1.openFile? = some n → z.1.openFile? ≠ some n := by
    intro n own moved
    exact beside.apart n (by rw [stands.backing?, own]) (by rw [standing.backing?, moved])
  have stays : (step.perform h w).2.Stands r (x.1, z'.2) := by
    obtain ⟨⟨o, entry⟩, -⟩ := stands
    exact ⟨⟨o, (others r beside.ne).trans entry⟩, standing'.2⟩
  have unnoticed : Source.Matches (x.1, z'.2) y := by
    refine ⟨same.source, ?_, ?_, fun n own => ?_⟩
    · rw [spares.files, around, same.files]
    · rw [spares.image, around, same.image]
    · rw [spares.others n (apart n own), around, same.own n own]
  exact ⟨⟨_, y, stays, stands', unnoticed⟩, lends'.pool, (lends'.symm pool).trans lends⟩

theorem beside_perform (hq : h.ref? = some q) (stands : w.Stands q x) (pool : w.pool.Sound)
    (plain : step.onStream = true) {q' : StreamRef} (beside : w.Beside r q') : (step.perform h w).2.Beside r q' where
  ne := beside.ne
  live := by
    rw [backing?_perform hq stands pool plain]
    exact beside.live
  apart n own := by
    rw [backing?_perform hq stands pool plain] at own ⊢
    exact beside.apart n own

end Handle

/-! ## Steps in turn -/

/-- A step on a handle. -/
abbrev Turn := Handle × ReadStep

def Turn.on (r : StreamRef) (t : Turn) : Bool := t.1.ref? = some r

namespace World

/-- Take steps in turn; each answer stands with its step. -/
def takeTurns (w : World) : List Turn → List (Turn × Answer) × World
  | [] => ([], w)
  | t :: rest =>
    let (answer, w) := t.2.perform t.1 w
    let (answers, w) := w.takeTurns rest
    ((t, answer) :: answers, w)

variable {w v : World} {r r₁ r₂ : StreamRef}

theorem Twin.position (twin : w.Twin r v) : w.position r = v.position r := by
  obtain ⟨⟨x, y, stands, stands', same⟩, -⟩ := twin
  have here := ((simulates_source r).tell stands).1
  have there := ((simulates_source r).tell stands').1
  exact here.trans ((Source.simulates_matches.tell same).1.trans there.symm)

/-- **A stream among others** answers its steps as it does alone. -/
theorem Twin.takeTurns (twin : w.Twin r v) {turns : List Turn} (plain : ∀ t ∈ turns, t.2.onStream = true)
    (beside : ∀ t ∈ turns, t.on r = true ∨ ∃ q, t.1.ref? = some q ∧ w.Beside r q) :
    (w.takeTurns turns).1.filter (·.1.on r) = (v.takeTurns (turns.filter (·.on r))).1 ∧
      Twin r (w.takeTurns turns).2 (v.takeTurns (turns.filter (·.on r))).2 := by
  induction turns generalizing w v with
  | nil => exact ⟨rfl, twin⟩
  | cons t rest ih =>
    have first : t.2.onStream = true := plain t (by simp)
    have plain' : ∀ t' ∈ rest, t'.2.onStream = true := fun t' mem => plain t' (by simp [mem])
    have kept : ∀ {q x}, t.1.ref? = some q → w.Stands q x → ∀ t' ∈ rest,
        t'.on r = true ∨ ∃ q', t'.1.ref? = some q' ∧ (t.2.perform t.1 w).2.Beside r q' := by
      intro q x hq stands t' mem
      rcases beside t' (by simp [mem]) with mine | ⟨q', hq', other⟩
      · exact .inl mine
      · exact .inr ⟨q', hq', Handle.beside_perform hq stands twin.pool first other⟩
    rcases beside t (by simp) with mine | ⟨q, hq, other⟩
    · have hr : t.1.ref? = some r := by simpa [Turn.on] using mine
      obtain ⟨x, -, stands, -⟩ := twin.stands
      obtain ⟨same, after⟩ := Handle.twin_perform hr twin first
      obtain ⟨answers, final⟩ := ih after plain' (kept hr stands)
      rw [List.filter_cons_of_pos mine]
      refine ⟨?_, final⟩
      simp only [World.takeTurns]
      rw [List.filter_cons_of_pos (p := fun a : Turn × Answer => a.1.on r) mine, answers, same]
    · have another : t.on r ≠ true := by
        intro mine
        have hr : t.1.ref? = some r := by simpa [Turn.on] using mine
        exact other.ne (Option.some.inj (hq.symm.trans hr))
      obtain ⟨x, stands⟩ := exists_stands other.live
      obtain ⟨answers, final⟩ := ih (Handle.twin_beside hq other twin first) plain' (kept hq stands)
      rw [List.filter_cons_of_neg another]
      refine ⟨?_, final⟩
      simp only [World.takeTurns]
      rw [List.filter_cons_of_neg (p := fun a : Turn × Answer => a.1.on r) another, answers]

/-- **Distinct streams are independent.** Let steps be taken in turn on handles over two live streams, unless these are
adaptations of one shared open file. The turns of each are a sequence of its own, and the list of all is any way of
interleaving the two. Then each stream gives the answers and ends at the position that its own sequence gives alone, with
the same scratch pool or another. If the memory of the pooled classes can be reserved that is any sound pool, and if not any
that grants the same requests. -/
theorem independent (pool : w.pool.Sound) (ne : r₁ ≠ r₂) (live₁ : w.table.isLive r₁ = true)
    (live₂ : w.table.isLive r₂ = true)
    (apart : ∀ n, w.backing? r₁ = some (some n) → w.backing? r₂ ≠ some (some n)) {p : Scratch.Pool} (other : p.Sound)
    (alike : (∀ c : Scratch.SizeClass, c ≠ .oversize → w.allocator.reserves (c.capacity 0) = true) ∨
      ({ w with pool := p } : World).grants = w.grants)
    {turns : List Turn} (ours : ∀ t ∈ turns, (t.on r₁ = true ∨ t.on r₂ = true) ∧ t.2.onStream = true) :
    ∀ r, r = r₁ ∨ r = r₂ →
      let together := w.takeTurns turns
      let alone := ({ w with pool := p } : World).takeTurns (turns.filter (·.on r))
      together.1.filter (·.1.on r) = alone.1 ∧ together.2.position r = alone.2.position r := by
  have there : ∀ q, w.table.isLive q = true → w.backing? q ≠ none := by
    intro q live
    unfold Table.isLive at live
    simpa [backing?, Option.isSome_iff_ne_none] using live
  have lends : w.LendsAs { w with pool := p } := by
    rcases alike with reserved | same
    · exact .of_spare other (fun c kept => reserved c (Scratch.Pool.pooled_of_kept kept)) fun c kept =>
        reserved c (Scratch.Pool.pooled_of_kept kept)
    · exact ⟨other, rfl, rfl, same⟩
  have twin : ∀ q, w.table.isLive q = true → w.Twin q { w with pool := p } := by
    intro q live
    obtain ⟨x, stands⟩ := exists_stands (there q live)
    exact ⟨⟨x, x, stands, stands, .refl x⟩, pool, lends⟩
  have mine : ∀ {t : Turn} {q}, t.on q = true → t.1.ref? = some q := by
    intro t q on
    simpa [Turn.on] using on
  rintro r (rfl | rfl)
  · have beside : w.Beside r r₂ := ⟨ne.symm, there r₂ live₂, apart⟩
    obtain ⟨answers, final⟩ := (twin r live₁).takeTurns (fun t mem => (ours t mem).2) fun t mem => by
      rcases (ours t mem).1 with on | on
      · exact .inl on
      · exact .inr ⟨r₂, mine on, beside⟩
    exact ⟨answers, final.position⟩
  · have beside : w.Beside r r₁ := ⟨ne, there r₁ live₁, fun n own theirs => apart n theirs own⟩
    obtain ⟨answers, final⟩ := (twin r live₂).takeTurns (fun t mem => (ours t mem).2) fun t mem => by
      rcases (ours t mem).1 with on | on
      · exact .inr ⟨r₁, mine on, beside⟩
      · exact .inl on
    exact ⟨answers, final.position⟩

/-- A buffer that is still full of other bytes. -/
def leftOver : Scratch.Buffer := ⟨⟨Scratch.smallSize, [1, 2, 3], by decide⟩, 3, .small⟩

/-- A file that is open twice, and a pool that a buffer went back to. -/
def openedTwice : World where
  env := { files := { tree := [(["a"], .file 0)], contents := [(0, #[104, 105])], next := 1 } }
  table := {
    entries := [(.first, ⟨.created, .file 0 0⟩), (StreamRef.first.next, ⟨.created, .file 0 0⟩)]
    next := StreamRef.first.next.next
    opened := 2 }
  pool := ({} : Scratch.Pool).release leftOver

theorem independent_openedTwice :
    let one : Handle := ⟨.owned .first, "a"⟩
    let two : Handle := ⟨.borrowed StreamRef.first.next, "a"⟩
    let turns : List Turn :=
      [(one, .read 1), (two, .readLine 4), (one, .seek 0 .current), (two, .tell), (one, .readByte)]
    let together := openedTwice.takeTurns turns
    let alone : List Turn := [(one, .read 1), (one, .seek 0 .current), (one, .readByte)]
    openedTwice.pool.Sound ∧
      (∀ c : Scratch.SizeClass, c ≠ .oversize → openedTwice.allocator.reserves (c.capacity 0) = true) ∧
      (∀ t ∈ turns, (t.on .first = true ∨ t.on StreamRef.first.next = true) ∧ t.2.onStream = true) ∧
      together.1.filter (·.1.on .first) = (({ openedTwice with pool := {} } : World).takeTurns alone).1 ∧
      together.2.position .first = 2 := by
  intro one two turns together alone
  have used : openedTwice.pool.Sound := Scratch.Pool.sound_empty.release leftOver
  have reserved : ∀ c : Scratch.SizeClass, c ≠ .oversize → openedTwice.allocator.reserves (c.capacity 0) = true :=
    fun c _ => by cases c <;> decide
  have ours : ∀ t ∈ turns, (t.on .first = true ∨ t.on StreamRef.first.next = true) ∧ t.2.onStream = true := by decide
  have apart : ∀ n, openedTwice.backing? .first = some (some n) →
      openedTwice.backing? StreamRef.first.next ≠ some (some n) := by
    intro n own
    cases own
  obtain ⟨answers, position⟩ := independent used (by decide) rfl rfl apart Scratch.Pool.sound_empty (.inl reserved) ours .first
    (.inl rfl)
  exact ⟨used, reserved, ours, answers, position.trans (by decide +kernel)⟩

end World
end ScriptStreams
