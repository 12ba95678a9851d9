import ScriptStreams.Proofs.ByteReads
import ScriptStreams.Proofs.Chunking
/-!
# What lines and strings consume and write

A line or a string is taken from a stream one byte at a time, so what it consumes is a run of next bytes
(`Source.Next`), and a source of any medium is left with just these bytes behind it (`Source.past`): the read that finds no
further byte, be it the end or a failure with a negative count, moves nothing (`Source.read_one`). Into a buffer go the
bytes and a NUL behind them, and the rest of the buffer stays (`Bytes.Terminated`). Both together are
`World.lines_and_strings_touch`.
-/
namespace ScriptStreams

/-! ## Buffers -/

/-- `after` is `buffer` with `text` and a NUL behind it written over its front, and with nothing else changed. -/
structure Bytes.Terminated (buffer text after : Bytes) : Prop where
  room : text.length < buffer.length
  length : after.length = buffer.length
  front : after.take text.length = text
  nul : after[text.length]? = some 0
  behind : ∀ i, text.length < i → after[i]? = buffer[i]?

/-- Without text, the NUL at the front is all that is written. -/
theorem Bytes.Terminated.of_no_text {buffer after : Bytes} (h : Terminated buffer [] after) : after = 0 :: buffer.tail := by
  have room := h.room
  cases buffer with
  | nil => simp at room
  | cons b rest =>
    refine List.ext_getElem? fun i => ?_
    cases i with
    | zero => exact h.nul
    | succ i => exact h.behind (i + 1) (Nat.zero_lt_succ i)

theorem Bytes.terminated_overlay {buffer text : Bytes} (room : text.length < buffer.length) :
    Terminated buffer text (overlay buffer (text ++ [0])) where
  room := room
  length := length_overlay _ _ (by rw [List.length_append]; exact room)
  front := by simp [overlay]
  nul := by simp [getElem?_overlay]
  behind i hi := by
    rw [getElem?_overlay, if_neg]
    simp only [List.length_append, List.length_singleton]
    omega

/-- Where there is no text, the NUL is all that is written. -/
theorem Bytes.overlay_nul (buffer : Bytes) : overlay buffer [0] = 0 :: buffer.tail := by
  rw [overlay, List.length_singleton, List.drop_one, List.singleton_append]

theorem Bytes.terminated_nul {buffer : Bytes} (room : buffer ≠ []) : Terminated buffer [] (0 :: buffer.tail) := by
  have written : Terminated buffer [] (overlay buffer ([] ++ [0])) :=
    terminated_overlay (List.length_pos_of_ne_nil room)
  rwa [List.nil_append, overlay_nul] at written

/-! ## Bytes taken from a source -/

/-- What a stream at `pos` tells. -/
theorem landing_current_eq (pos size : Nat) :
    landing pos size 0 .current = if pos ≤ maxPosition then some pos else none := by
  split
  · next inside => exact landing_current size inside
  · next outside =>
    unfold landing
    rw [if_neg]
    simp only [Whence.base]
    omega

/-- The open file with `k` bytes of it behind. -/
def OpenFile.past (k : Nat) : OpenFile → OpenFile
  | .file id mode pos => .file id mode (pos + k)
  | .directory pos => .directory (pos + k)
  | .pipe pending => .pipe (pending.drop k)

theorem OpenFile.past_past (j k : Nat) (f : OpenFile) : (f.past j).past k = f.past (j + k) := by
  cases f with
  | file | directory => simp only [past, Nat.add_assoc]
  | pipe pending => simp only [past, List.drop_drop]

theorem OpenFile.past_zero (f : OpenFile) : f.past 0 = f := by cases f <;> rfl

/-- One byte of an open file, or none, and then it stays where it is. -/
theorem OpenFile.read_one (fs : Files) (f : OpenFile) :
    (∃ b, f.read fs 1 = (⟨1, [b]⟩, f.past 1)) ∨ (f.read fs 1).1.count ≠ 1 ∧ (f.read fs 1).2 = f := by
  cases f with
  | file id mode pos =>
    by_cases readable : mode.readable = true
    · have short := length_slice_le (fs.content id) pos 1
      rw [read_file readable]
      rcases slice : Bytes.slice (fs.content id) pos 1 with _ | ⟨b, _ | ⟨b', more⟩⟩
      · exact .inr ⟨by simp, rfl⟩
      · exact .inl ⟨b, rfl⟩
      · rw [slice] at short
        simp at short
    · refine .inr ?_
      simp [read, fill, gather, deliver, readable]
  | directory pos =>
    have failed : OpenFile.read fs 1 (.directory pos) = (⟨-1, []⟩, .directory pos) := rfl
    exact .inr ⟨by simp [failed], rfl⟩
  | pipe pending =>
    cases pending with
    | nil =>
      have ended : OpenFile.read fs 1 (.pipe []) = (⟨0, []⟩, .pipe []) := rfl
      exact .inr ⟨by simp [ended], rfl⟩
    | cons b rest => exact .inl ⟨b, rfl⟩

namespace Source

variable {x y : Source × Environment} {bs : Bytes} {b : UInt8} {limit : Nat}

/-- The source with `k` bytes of it behind. -/
def past (k : Nat) : Source × Environment → Source × Environment
  | (.file id pos, env) => (.file id (pos + k), env)
  | (.shared n, env) => match env.openFiles.get? n with
    | some f => (.shared n, { env with openFiles := env.openFiles.set n (f.past k) })
    | none => (.shared n, env)
  | (.window w, env) => (.window { w with pos := w.pos + k }, env)
  | (.supplied s, env) => (.supplied { s with pos := s.pos + k }, env)

/-- If the source fails, then with a negative count. -/
def FailsBelowZero (x : Source × Environment) : Prop := ∀ s, x.1 = .supplied s → s.failCode < 0

/-- The next bytes of the source: each is what a read of one byte gives with those in front of it behind. -/
def Next (bs : Bytes) (x : Source × Environment) : Prop :=
  ∀ i b, bs[i]? = some b → (Source.read 1 (past i x)).1 = ⟨1, [b]⟩

/-- A read of one byte gives none. -/
def Exhausted (x : Source × Environment) : Prop := (Source.read 1 x).1.count ≠ 1

theorem past_past (j k : Nat) (x : Source × Environment) : past k (past j x) = past (j + k) x := by
  obtain ⟨source, env⟩ := x
  cases source with
  | file | window | supplied => simp only [past, Nat.add_assoc]
  | shared n =>
    cases found : env.openFiles.get? n with
    | none => simp only [past, found]
    | some f => simp only [past, found, Keyed.get?_set_self, Keyed.set_set, OpenFile.past_past]

theorem alike_past_zero (x : Source × Environment) : Alike x (past 0 x) := by
  obtain ⟨source, env⟩ := x
  cases source with
  | file | window | supplied => exact ⟨rfl, env.alike_refl⟩
  | shared n =>
    cases found : env.openFiles.get? n with
    | none =>
      simp only [past, found]
      exact ⟨rfl, env.alike_refl⟩
    | some f =>
      have same : env.Alike { env with openFiles := env.openFiles.set n f } :=
        ⟨rfl, rfl, fun k => ((Environment.alike_set found).openFiles k).symm⟩
      simp only [past, found, OpenFile.past_zero]
      exact ⟨rfl, same⟩

theorem FailsBelowZero.past (below : FailsBelowZero x) (k : Nat) : FailsBelowZero (past k x) := by
  obtain ⟨source, env⟩ := x
  intro s same
  cases source with
  | file | window => cases same
  | shared n =>
    simp only [Source.past] at same
    split at same <;> cases same
  | supplied s' =>
    cases same
    exact below s' rfl

/-- **A read of one byte** gives the next byte and moves behind it, or gives none and moves nothing. -/
theorem read_one (below : FailsBelowZero x) :
    (∃ b, Source.read 1 x = (⟨1, [b]⟩, past 1 x)) ∨ Exhausted x ∧ Alike (Source.read 1 x).2 x := by
  obtain ⟨source, env⟩ := x
  cases source with
  | file id pos =>
    have short := length_slice_le (env.files.content id) pos 1
    simp only [Exhausted, Source.read, fill_deliverFile]
    rcases slice : Bytes.slice (env.files.content id) pos 1 with _ | ⟨b, _ | ⟨b', more⟩⟩
    · exact .inr ⟨by simp, rfl, env.alike_refl⟩
    · exact .inl ⟨b, rfl⟩
    · rw [slice] at short
      simp at short
  | shared n =>
    cases found : env.openFiles.get? n with
    | none =>
      simp only [Exhausted, Source.read, found]
      exact .inr ⟨by decide, rfl, env.alike_refl⟩
    | some f =>
      simp only [Exhausted, Source.read, past, found]
      rcases f.read_one env.files with ⟨b, read⟩ | ⟨none_read, stays⟩
      · refine .inl ⟨b, ?_⟩
        rw [read]
      · refine .inr ⟨none_read, rfl, ?_⟩
        rw [stays]
        exact Environment.alike_set found
  | window w =>
    obtain ⟨count, read, counted⟩ := window_read_eq w env 1
    simp only [Exhausted, Source.read, read]
    rcases delivered_one (.window w, env) with ended | ⟨b, first⟩
    · rw [ended] at counted ⊢
      refine .inr ⟨?_, rfl, env.alike_refl⟩
      rcases counted with rfl | ⟨-, low⟩
      · decide
      · omega
    · rw [first] at counted ⊢
      rcases counted with rfl | ⟨empty, -⟩
      · exact .inl ⟨b, rfl⟩
      · cases empty
  | supplied s =>
    by_cases failed : s.hasFailed = true
    · have negative : s.failCode < 0 := below s rfl
      simp only [Exhausted, Source.read, Supplied.read, if_pos failed]
      exact .inr ⟨by omega, rfl, env.alike_refl⟩
    · have read := s.read_eq failed (n := 1)
      simp only [Exhausted, Source.read, read]
      generalize s.medium.rest s.pos = rest
      cases rest with
      | nil => exact .inr ⟨by simp, by simp, env.alike_refl⟩
      | cons b rest =>
        -- a chunk of one byte at least is asked for, and there is one
        have one : min (if s.chunk = 0 then 1 else min 1 s.chunk) (b :: rest).length = 1 := by
          rw [List.length_cons]
          split <;> omega
        rw [one]
        exact .inl ⟨b, rfl⟩

theorem exhausted_of_alike (ended : Exhausted x) (alike : Alike x y) : Exhausted y := by
  have same : (Source.read 1 x).1 = (Source.read 1 y).1 := (simulates_alike.read 1 alike).1
  rwa [Exhausted, ← same]

theorem next_nil (x : Source × Environment) : Next [] x := by
  intro i b hb
  cases hb

theorem Next.cons (first : (Source.read 1 x).1 = ⟨1, [b]⟩) (rest : Next bs (past 1 x)) : Next (b :: bs) x := by
  intro i b' hb
  cases i with
  | zero =>
    obtain rfl : b = b' := by simpa using hb
    have same : (Source.read 1 x).1 = (Source.read 1 (past 0 x)).1 := (simulates_alike.read 1 (alike_past_zero x)).1
    rwa [← same]
  | succ i =>
    have later := rest i b' (by simpa using hb)
    rwa [past_past, Nat.add_comm] at later

/-! ## Lines and strings -/

theorem nextByte_cases (below : FailsBelowZero x) :
    (∃ b, (Source.read 1 x).1 = ⟨1, [b]⟩ ∧ device.nextByte x = (some b, past 1 x)) ∨
      ∃ y, Exhausted x ∧ device.nextByte x = (none, y) ∧ Alike y x := by
  rcases read_one below with ⟨b, read⟩ | ⟨ended, stays⟩
  · have given : device.nextByte x = (some b, past 1 x) := by simp [Device.nextByte, device, read]
    exact .inl ⟨b, congrArg Prod.fst read, given⟩
  · have none_given : device.nextByte x = (none, (Source.read 1 x).2) := by
      unfold Device.nextByte
      exact congrArg (·, (Source.read 1 x).2) (if_neg ended)
    exact .inr ⟨_, ended, none_given, stays⟩

/-- **A line** is a run of next bytes. It stops at the limit, behind a line feed, or where there is no further byte. -/
theorem takeLine_next (below : FailsBelowZero x) (limit : Nat) :
    ∃ line y, device.takeLine limit x = (line, y) ∧ Next line x ∧ Alike y (past line.length x) ∧ line.length ≤ limit ∧
      (line.length < limit → line.getLast? = some Bytes.newline ∨ Exhausted (past line.length x)) := by
  -- each byte is taken from the source with the bytes in front of it behind
  induction limit generalizing x with
  | zero => exact ⟨[], x, rfl, next_nil x, alike_past_zero x, Nat.le_refl 0, fun short => absurd short (Nat.lt_irrefl 0)⟩
  | succ limit ih =>
    unfold Device.takeLine
    rcases nextByte_cases below with ⟨b, first, byte⟩ | ⟨y, ended, no_byte, stays⟩
    · rw [byte]
      dsimp only
      by_cases feed : b = Bytes.newline
      · refine ⟨[b], past 1 x, if_pos feed, .cons first (next_nil _), ⟨rfl, Environment.alike_refl _⟩, by simp, ?_⟩
        intro _
        exact .inl (by simp [feed])
      · obtain ⟨line, y, taken, next, alike, short, stops⟩ := ih (below.past 1)
        rw [past_past, Nat.add_comm] at alike stops
        refine ⟨b :: line, y, ?_, .cons first next, alike, Nat.succ_le_succ short, fun shorter => ?_⟩
        · rw [if_neg feed, taken]
        · rcases stops (Nat.lt_of_succ_lt_succ shorter) with last | ended
          · refine .inl ?_
            rw [List.getLast?_cons, last]
            rfl
          · exact .inr ended
    · rw [no_byte]
      have still := alike_past_zero x
      exact ⟨[], y, rfl, next_nil x, stays.trans still, Nat.zero_le _, fun _ => .inr (exhausted_of_alike ended still)⟩

/-- **A string** is what a run of next bytes has before its NUL. The run stops at the limit, behind a NUL, or where there is
no further byte. -/
theorem takeString_next (below : FailsBelowZero x) (limit : Nat) :
    ∃ string run y, device.takeString limit x = (string, decide (run ≠ []), y) ∧ Next run x ∧
      Alike y (past run.length x) ∧ run.length ≤ limit ∧ 0 ∉ string ∧ (run = string ∨ run = string ++ [0]) ∧
      (run.length < limit → run = string ++ [0] ∨ Exhausted (past run.length x)) := by
  induction limit generalizing x with
  | zero =>
    exact ⟨[], [], x, rfl, next_nil x, alike_past_zero x, Nat.le_refl 0, List.not_mem_nil, .inl rfl,
      fun short => absurd short (Nat.lt_irrefl 0)⟩
  | succ limit ih =>
    unfold Device.takeString
    rcases nextByte_cases below with ⟨b, first, byte⟩ | ⟨y, ended, no_byte, stays⟩
    · rw [byte]
      dsimp only
      by_cases nul : b = 0
      · subst nul
        exact ⟨[], [0], past 1 x, rfl, .cons first (next_nil _), ⟨rfl, Environment.alike_refl _⟩, by simp,
          List.not_mem_nil, .inr rfl, fun _ => .inl rfl⟩
      · obtain ⟨string, run, y, taken, next, alike, short, free, made, stops⟩ := ih (below.past 1)
        rw [past_past, Nat.add_comm] at alike stops
        refine ⟨b :: string, b :: run, y, ?_, .cons first next, alike, Nat.succ_le_succ short, ?_, ?_, fun shorter => ?_⟩
        · rw [if_neg nul, taken]
          rfl
        · simp [Ne.symm nul, free]
        · exact made.imp (congrArg (b :: ·)) (congrArg (b :: ·))
        · exact (stops (Nat.lt_of_succ_lt_succ shorter)).imp_left (congrArg (b :: ·))
    · rw [no_byte]
      have still := alike_past_zero x
      exact ⟨[], [], y, rfl, next_nil x, stays.trans still, Nat.zero_le _, List.not_mem_nil, .inl rfl,
        fun _ => .inr (exhausted_of_alike ended still)⟩

theorem FailsBelowZero.seek (below : FailsBelowZero x) (offset : Int) (whence : Whence) :
    FailsBelowZero (Source.seek offset whence x).2 := by
  obtain ⟨source, env⟩ := x
  intro s same
  cases source with
  | file | shared =>
    simp only [Source.seek] at same
    split at same <;> cases same
  | window => cases same
  | supplied s' =>
    simp only [Source.seek, Supplied.seek] at same
    split at same <;> cases same <;> exact below s' rfl

end Source

/-! ## Positions -/

/-- The answer of a stream at `pos` that can tell where it is. -/
def told (pos : Nat) : Int := if pos ≤ maxPosition then pos else -1

theorem told_add {pos k : Nat} (tells : 0 ≤ told pos) (inside : told pos + k ≤ maxPosition) :
    told (pos + k) = told pos + k := by
  have here : told pos = pos := by
    by_contra far
    simp only [told] at tells far
    split at tells <;> simp_all
  rw [here] at inside ⊢
  rw [told, if_pos (by omega), Int.natCast_add]

theorem OpenFile.tell_past {fs : Files} {f : OpenFile} {k : Nat} (tells : 0 ≤ (f.seek fs 0 .current).1)
    (inside : (f.seek fs 0 .current).1 + k ≤ maxPosition) :
    ((f.past k).seek fs 0 .current).1 = (f.seek fs 0 .current).1 + k := by
  cases f with
  | file id mode pos =>
    have answer : ∀ p, ((OpenFile.file id mode p).seek fs 0 .current).1 = told p := by
      intro p
      by_cases near : p ≤ maxPosition <;> simp [seek, landing_current_eq, told, near]
    rw [answer] at tells inside
    rw [past, answer, answer, told_add tells inside]
  | directory pos =>
    have answer : ∀ p, ((OpenFile.directory p).seek fs 0 .current).1 = told p := by
      intro p
      by_cases near : p ≤ maxPosition <;> simp [seek, landing_current_eq, told, near]
    rw [answer] at tells inside
    rw [past, answer, answer, told_add tells inside]
  | pipe pending => simp [seek] at tells

/-- **A source that can tell its position** tells one that is `k` further on when `k` more bytes are behind. -/
theorem Source.tell_past {x : Source × Environment} {k : Nat} (tells : 0 ≤ (device.tell x).1)
    (inside : (device.tell x).1 + k ≤ maxPosition) : (device.tell (past k x)).1 = (device.tell x).1 + k := by
  obtain ⟨source, env⟩ := x
  cases source with
  | file id pos =>
    have answer : ∀ p, (device.tell (.file id p, env)).1 = told p := by
      intro p
      by_cases near : p ≤ maxPosition <;> simp [Device.tell, device, Source.seek, landing_current_eq, told, near]
    rw [answer] at tells inside
    rw [past, answer, answer, told_add tells inside]
  | shared n =>
    cases found : env.openFiles.get? n with
    | none => simp [Device.tell, device, Source.seek, found] at tells
    | some f =>
      simp only [Device.tell, device, Source.seek, past, found, Keyed.get?_set_self] at tells inside ⊢
      exact OpenFile.tell_past tells inside
  | window w =>
    have answer : ∀ p, (device.tell (.window { w with pos := p }, env)).1 = told p := by
      intro p
      by_cases near : p ≤ maxPosition <;>
        simp [Device.tell, device, Source.seek, Window.seek, landing_current_eq, told, near]
    rw [answer w.pos] at tells inside
    rw [past, answer, answer w.pos, told_add tells inside]
  | supplied s =>
    by_cases seekable : s.seekable = true
    · have answer : ∀ p, (device.tell (.supplied { s with pos := p }, env)).1 = told p := by
        intro p
        by_cases near : p ≤ maxPosition <;>
          simp [Device.tell, device, Source.seek, Supplied.seek, seekable, landing_current_eq, told, near]
      rw [answer s.pos] at tells inside
      rw [past, answer, answer s.pos, told_add tells inside]
    · simp [Device.tell, device, Source.seek, Supplied.seek, seekable] at tells

/-! ## Strings behind a seek -/

namespace Source

variable {x : Source × Environment} {pos : Int}

/-- The source moved to where a string is looked for. -/
def sought (pos : Int) (x : Source × Environment) : Source × Environment :=
  if pos = -1 then x else (Source.seek pos .start x).2

theorem FailsBelowZero.sought (below : FailsBelowZero x) (pos : Int) : FailsBelowZero (sought pos x) := by
  unfold Source.sought
  split
  · exact below
  · exact below.seek pos .start

/-- Where the seek fails there is an empty string, and nothing has moved. -/
theorem readCString_of_lost (elsewhere : pos ≠ -1) (lost : (Source.seek pos .start x).1 < 0) (limit : Nat) :
    ∃ y, device.readCString pos (limit + 1) x = ((false, [0]), y) ∧ Alike y (past 0 x) := by
  refine ⟨(Source.seek pos .start x).2, ?_, (alike_of_seek_neg lost).trans (alike_past_zero x)⟩
  unfold Device.readCString
  simp only [if_neg elsewhere]
  exact if_pos lost

theorem readCString_of_reached (reached : pos = -1 ∨ 0 ≤ (Source.seek pos .start x).1) (limit : Nat) :
    device.readCString pos (limit + 1) x =
      (((device.takeString limit (sought pos x)).2.1, (device.takeString limit (sought pos x)).1 ++ [0]),
        (device.takeString limit (sought pos x)).2.2) := by
  unfold Device.readCString sought
  by_cases here : pos = -1
  · simp only [if_pos here]
    rfl
  · have found : ¬ (Source.seek pos .start x).1 < 0 := Int.not_lt.2 (reached.resolve_left here)
    simp only [if_neg here]
    exact if_neg found

end Source

/-! ## Streams of a world -/

namespace World

variable {α : Type} {r : StreamRef} {w w' : World} {x : Source × Environment} {bs : Bytes}

/-- Of the world, only the stream and what surrounds it may have changed. -/
structure OnlyMoves (r : StreamRef) (w w' : World) : Prop where
  others : ∀ r', r' ≠ r → w'.table.entry? r' = w.table.entry? r'
  rest : w' = { w with env := w'.env, table := { w.table with entries := w'.table.entries } }

/-- Two worlds that came from one by moving the stream. -/
theorem OnlyMoves.between {v : World} (first : OnlyMoves r w v) (second : OnlyMoves r w w') : OnlyMoves r v w' where
  others r' other := (second.others r' other).trans (first.others r' other).symm
  rest := by
    refine second.rest.trans ?_
    conv_rhs => rw [first.rest]

/-- Nothing was moved. -/
structure Still (r : StreamRef) (w w' : World) : Prop extends OnlyMoves r w w' where
  stream : w'.table.entry? r = w.table.entry? r
  env : w'.env = w.env

/-- The stream gave these bytes on the way from `w` to `w'`, and they are behind it then; nothing else has changed. -/
structure Gives (r : StreamRef) (bs : Bytes) (w w' : World) : Prop extends OnlyMoves r w w' where
  moved : ∃ x y, w.Stands r x ∧ Source.Next bs x ∧ w'.Stands r y ∧ Source.Alike y (Source.past bs.length x)

theorem onlyMoves_withStream (r : StreamRef) (w : World) (f : Source × Environment → α × Source × Environment) :
    OnlyMoves r w (w.withStream r f).2 := by
  unfold withStream
  cases entry : w.table.entry? r with
  | none => exact ⟨fun _ _ => rfl, rfl⟩
  | some e =>
    refine ⟨fun r' other => ?_, ?_⟩
    · rw [Table.entry?_update entry, if_neg (Ne.symm other)]
    · simp only [Table.update, entry]

/-- **The position** of a stream that can tell it goes up by the bytes that the stream gave. -/
theorem Gives.position (gives : Gives r bs w w') (tells : 0 ≤ w.position r)
    (inside : w.position r + bs.length ≤ maxPosition) : w'.position r = w.position r + bs.length := by
  obtain ⟨x, y, stands, -, stands', alike⟩ := gives.moved
  have before : w.position r = (Source.device.tell x).1 := ((simulates_source r).tell stands).1
  have after : w'.position r = (Source.device.tell y).1 := ((simulates_source r).tell stands').1
  have same : (Source.device.tell y).1 = (Source.device.tell (Source.past bs.length x)).1 :=
    (Source.simulates_alike.tell alike).1
  rw [before] at tells inside ⊢
  rw [after, same, Source.tell_past tells inside]

theorem still_withStream (r : StreamRef) (w : World) {f : Source × Environment → α × Source × Environment}
    (stays : ∀ x, (f x).2 = x) : Still r w (w.withStream r f).2 where
  toOnlyMoves := onlyMoves_withStream r w f
  stream := by
    unfold withStream
    cases entry : w.table.entry? r with
    | none => exact entry
    | some e =>
      simp only [stays]
      rw [Table.entry?_update entry, if_pos rfl]
  env := by
    unfold withStream
    cases w.table.entry? r with
    | none => rfl
    | some e => simp only [stays]

/-! ## Lines and strings in a buffer -/

theorem readLineInto_of_gone (gone : w.table.entry? r = none) (buffer : Bytes) :
    w.readLineInto r buffer = ((false, buffer), w) := by
  simp only [readLineInto, readLine, withStream_of_gone gone, Option.getD_none, Bytes.overlay_nil]

theorem readCStringInto_of_gone (gone : w.table.entry? r = none) (pos : Int) {buffer : Bytes} (room : buffer ≠ []) :
    w.readCStringInto r pos buffer = ((false, 0 :: buffer.tail), w) := by
  have some_room : ¬ buffer.length = 0 := fun none_left => room (List.length_eq_zero_iff.1 none_left)
  simp only [readCStringInto, readCString, withStream_of_gone gone, Option.getD_none, if_neg some_room, Bytes.overlay_nul]

/-- A stream that gave bytes by an operation of its source. -/
theorem gives_withStream (stands : w.Stands r x) {f : Source × Environment → α × Source × Environment}
    (next : Source.Next bs x) (alike : Source.Alike (f x).2 (Source.past bs.length x)) :
    w.Gives r bs (w.withStream r f).2 :=
  ⟨onlyMoves_withStream r w f, x, _, stands, next, (stands.withStream f).2, alike⟩

/-- No byte is to be had where the source has none. -/
theorem readByte_of_exhausted {y : Source × Environment} (stands : w.Stands r y) (alike : Source.Alike y x)
    (ended : Source.Exhausted x) : (w.readByte r).1 = none := by
  have same : (Source.read 1 y).1 = (Source.read 1 x).1 := (Source.simulates_alike.read 1 alike).1
  have none_read : (Source.device.nextByte y).1 = none := by
    refine if_neg ?_
    show ¬ (Source.read 1 y).1.count = 1
    rw [same]
    exact ended
  have read := (stands.withStream Source.device.nextByte).1
  simp only [readByte, read, none_read, Option.getD_some]

/-- **A line in a buffer with room.** -/
theorem readLineInto_of_stands (stands : w.Stands r x) (below : Source.FailsBelowZero x) {buffer : Bytes}
    (room : buffer ≠ []) :
    ∃ line after w', w.readLineInto r buffer = ((decide (line ≠ []), after), w') ∧ buffer.Terminated line after ∧
      w.Gives r line w' ∧
      (line.length + 1 < buffer.length → line.getLast? = some Bytes.newline ∨ (w'.readByte r).1 = none) := by
  obtain ⟨b, rest, rfl⟩ := List.exists_cons_of_ne_nil room
  obtain ⟨line, y, taken, next, alike, short, stops⟩ := Source.takeLine_next below rest.length
  have read : Source.device.readLine (b :: rest).length x = ((!line.isEmpty, line ++ [0]), y) := by
    rw [List.length_cons, Device.readLine, taken]
  have given := stands.withStream (Source.device.readLine (b :: rest).length)
  rw [read] at given
  refine ⟨line, Bytes.overlay (b :: rest) (line ++ [0]),
    (w.withStream r (Source.device.readLine (b :: rest).length)).2, ?_, ?_, ?_, ?_⟩
  · simp only [readLineInto, readLine, given.1, Option.getD_some]
    cases line <;> rfl
  · exact Bytes.terminated_overlay (Nat.lt_succ_of_le short)
  · refine gives_withStream stands next ?_
    rw [read]
    exact alike
  · intro shorter
    refine (stops (Nat.lt_of_succ_lt_succ shorter)).imp_right fun ended => ?_
    exact readByte_of_exhausted given.2 alike ended

/-- The world in which a string is looked for: the stream stands where it stood or at a position. -/
def soughtFrom (r : StreamRef) (pos : Int) (w : World) : World := if pos = -1 then w else (w.seek r pos .start).2

/-- The position cannot be reached. -/
def Lost (r : StreamRef) (pos : Int) (w : World) : Prop := pos ≠ -1 ∧ (w.seek r pos .start).1 < 0

theorem lost_iff (stands : w.Stands r x) (pos : Int) :
    w.Lost r pos ↔ pos ≠ -1 ∧ (Source.seek pos .start x).1 < 0 := by
  have same : (w.seek r pos .start).1 = (Source.seek pos .start x).1 := ((simulates_source r).seek pos .start stands).1
  rw [Lost, same]

theorem soughtFrom_of_stands (stands : w.Stands r x) (pos : Int) :
    (w.soughtFrom r pos).Stands r (Source.sought pos x) ∧ w.OnlyMoves r (w.soughtFrom r pos) := by
  unfold soughtFrom Source.sought
  split
  · exact ⟨stands, fun _ _ => rfl, rfl⟩
  · exact ⟨((simulates_source r).seek pos .start stands).2, onlyMoves_withStream r w (Source.seek pos .start)⟩

/-- What a string in a buffer comes to, by what its source does. -/
theorem readCStringInto_of_stands (stands : w.Stands r x) (pos : Int) (buffer : Bytes) :
    let f := Source.device.readCString pos buffer.length
    w.readCStringInto r pos buffer =
        (((f x).1.1, Bytes.overlay buffer (f x).1.2), (w.withStream r f).2) ∧
      (w.withStream r f).2.Stands r (f x).2 := by
  intro f
  obtain ⟨given, after⟩ := stands.withStream f
  refine ⟨?_, after⟩
  simp only [readCStringInto, readCString]
  rw [given]
  rfl

theorem readCStringInto_of_lost (stands : w.Stands r x) {pos : Int} (lost : w.Lost r pos) {buffer : Bytes}
    (room : buffer ≠ []) :
    ∃ w', w.readCStringInto r pos buffer = ((false, 0 :: buffer.tail), w') ∧ w.Gives r [] w' := by
  obtain ⟨elsewhere, failed⟩ := (lost_iff stands pos).1 lost
  obtain ⟨b, rest, rfl⟩ := List.exists_cons_of_ne_nil room
  obtain ⟨y, read, alike⟩ := Source.readCString_of_lost elsewhere failed rest.length
  obtain ⟨given, after⟩ := readCStringInto_of_stands stands pos (b :: rest)
  rw [List.length_cons, read] at given after
  refine ⟨_, given, gives_withStream stands (Source.next_nil x) ?_⟩
  rw [read]
  exact alike

/-- **A string in a buffer with room**, where its position is reached. -/
theorem readCStringInto_of_reached (stands : w.Stands r x) (below : Source.FailsBelowZero x) {pos : Int}
    (reached : ¬ w.Lost r pos) {buffer : Bytes} (room : buffer ≠ []) :
    ∃ string run after w', w.readCStringInto r pos buffer = ((decide (run ≠ []), after), w') ∧
      buffer.Terminated string after ∧ 0 ∉ string ∧ (run = string ∨ run = string ++ [0]) ∧
      (w.soughtFrom r pos).Gives r run w' ∧
      (run.length + 1 < buffer.length → run = string ++ [0] ∨ (w'.readByte r).1 = none) := by
  have found : pos = -1 ∨ 0 ≤ (Source.seek pos .start x).1 := by
    rw [lost_iff stands, not_and_or, not_not, Int.not_lt] at reached
    exact reached
  obtain ⟨b, rest, rfl⟩ := List.exists_cons_of_ne_nil room
  obtain ⟨string, run, y, taken, next, alike, short, free, made, stops⟩ :=
    Source.takeString_next (below.sought pos) rest.length
  have read := Source.readCString_of_reached found rest.length
  rw [taken] at read
  obtain ⟨given, after⟩ := readCStringInto_of_stands stands pos (b :: rest)
  obtain ⟨stands', moved⟩ := soughtFrom_of_stands stands pos
  have moved' := onlyMoves_withStream r w (Source.device.readCString pos (b :: rest).length)
  rw [List.length_cons, read] at given after
  have within : string.length ≤ run.length := by
    rcases made with rfl | rfl
    · exact Nat.le_refl _
    · simp
  refine ⟨string, run, _, _, given, ?_, free, made, ⟨moved.between moved', _, _, stands', next, after, alike⟩, ?_⟩
  · exact Bytes.terminated_overlay (Nat.lt_succ_of_le (within.trans short))
  · intro shorter
    exact (stops (Nat.lt_of_succ_lt_succ shorter)).imp_right fun ended => readByte_of_exhausted after alike ended

/-- An answer that does not depend on the stream is also the answer of a stream that is gone. -/
theorem withStream_const (r : StreamRef) (w : World) {f : Source × Environment → α × Source × Environment} {a : α}
    (same : ∀ x, (f x).1 = a) : (w.withStream r f).1.getD a = a := by
  unfold withStream
  cases w.table.entry? r with
  | none => rfl
  | some e => exact same _

theorem readLineInto_nil (r : StreamRef) (w : World) :
    ∃ w', w.readLineInto r [] = ((false, []), w') ∧ w.Still r w' := by
  refine ⟨(w.withStream r (Source.device.readLine 0)).2, ?_, still_withStream r w fun _ => rfl⟩
  have answer := withStream_const r w (f := Source.device.readLine 0) (a := (false, [])) fun _ => rfl
  simp only [readLineInto, readLine, List.length_nil, answer, Bytes.overlay_nil]

theorem readCStringInto_nil (r : StreamRef) (pos : Int) (w : World) :
    ∃ w', w.readCStringInto r pos [] = ((false, []), w') ∧ w.Still r w' := by
  refine ⟨(w.withStream r (Source.device.readCString pos 0)).2, ?_, still_withStream r w fun _ => rfl⟩
  have answer := withStream_const r w (f := Source.device.readCString pos 0) (a := (false, [])) fun _ => rfl
  simp only [readCStringInto, readCString, List.length_nil, if_true, answer, Bytes.overlay_nil]

/-- What a line comes to: the bytes of `line` are taken from the stream, and they and a NUL are put into the buffer. -/
structure LineTaken (r : StreamRef) (buffer line after : Bytes) (w w' : World) : Prop where
  written : buffer.Terminated line after
  taken : w.Gives r line w'
  position : 0 ≤ w.position r → w.position r + line.length ≤ maxPosition → w'.position r = w.position r + line.length
  /-- A line shorter than the buffer has room for ends with a line feed, or there is no further byte. -/
  stops : line.length + 1 < buffer.length → line.getLast? = some Bytes.newline ∨ (w'.readByte r).1 = none

/-- What a string comes to: the bytes of `run` are taken from the stream, from `pos` on unless that is -1, and those of them
in front of a NUL are put into the buffer with a NUL behind them. -/
structure StringTaken (r : StreamRef) (pos : Int) (buffer string run after : Bytes) (w w' : World) : Prop where
  written : buffer.Terminated string after
  free : 0 ∉ string
  terminator : run = string ∨ run = string ++ [0]
  gone : w.table.entry? r = none → run = [] ∧ w' = w
  lost : w.table.isLive r = true → w.Lost r pos → run = [] ∧ w.Gives r [] w'
  taken : w.table.isLive r = true → ¬ w.Lost r pos → (w.soughtFrom r pos).Gives r run w'
  /-- A string shorter than the buffer has room for ends at a NUL, or there is no further byte. -/
  stops : w.table.isLive r = true → ¬ w.Lost r pos → run.length + 1 < buffer.length →
    run = string ++ [0] ∨ (w'.readByte r).1 = none

/-- **Lines and strings touch only what they report.** A line is some next bytes of the stream. These and a NUL behind them
go to the front of the buffer, the rest of the buffer and of the world is left alone, and the answer is whether there was a
byte. A string likewise, with the bytes in front of a NUL, and where it is none the buffer gets the NUL alone: the stream
may be gone, its position be out of reach, or no byte come. A buffer without room is not written to, nor is the stream read
for it. The stream may fail anywhere with a negative count. A line from a stream that is gone leaves the buffer as it is. -/
theorem lines_and_strings_touch (r : StreamRef) (w : World)
    (below : ∀ origin s, w.table.entry? r = some ⟨origin, .supplied s⟩ → s.failCode < 0) (pos : Int) (buffer : Bytes) :
    (buffer = [] →
      (∃ w', w.readLineInto r buffer = ((false, []), w') ∧ w.Still r w') ∧
      ∃ w', w.readCStringInto r pos buffer = ((false, []), w') ∧ w.Still r w') ∧
    (buffer ≠ [] →
      (w.table.isLive r = true → ∃ line after w',
        w.readLineInto r buffer = ((decide (line ≠ []), after), w') ∧ LineTaken r buffer line after w w') ∧
      (w.table.isLive r = false → w.readLineInto r buffer = ((false, buffer), w)) ∧
      ∃ string run after w',
        w.readCStringInto r pos buffer = ((decide (run ≠ []), after), w') ∧
          StringTaken r pos buffer string run after w w' ∧ (run = [] → after = 0 :: buffer.tail)) := by
  refine ⟨?_, fun room => ?_⟩
  · rintro rfl
    exact ⟨readLineInto_nil r w, readCStringInto_nil r pos w⟩
  cases entry : w.table.entry? r with
  | none =>
    have gone : w.table.isLive r = false := by simp [Table.isLive, entry]
    refine ⟨fun live => absurd live (by simp [gone]), fun _ => readLineInto_of_gone entry buffer, ?_⟩
    refine ⟨[], [], _, w, readCStringInto_of_gone entry pos room, ?_, fun _ => rfl⟩
    refine ⟨Bytes.terminated_nul room, List.not_mem_nil, .inl rfl, fun _ => ⟨rfl, rfl⟩, ?_, ?_, ?_⟩
    all_goals exact fun live => absurd live (by simp [gone])
  | some e =>
    have stands := stands_of_entry entry
    have fails : Source.FailsBelowZero (e.source, w.env) := by
      rintro s supplied
      obtain ⟨origin, source⟩ := e
      obtain rfl : source = .supplied s := supplied
      exact below origin s entry
    have live : w.table.isLive r = true := by simp [Table.isLive, entry]
    refine ⟨fun _ => ?_, fun gone => absurd live (by simp [gone]), ?_⟩
    · obtain ⟨line, after, w', read, written, gives, stops⟩ := readLineInto_of_stands stands fails room
      exact ⟨line, after, w', read, written, gives, gives.position, stops⟩
    · by_cases lost : w.Lost r pos
      · obtain ⟨w', read, gives⟩ := readCStringInto_of_lost stands lost room
        refine ⟨[], [], _, w', read, ?_, fun _ => rfl⟩
        refine ⟨Bytes.terminated_nul room, List.not_mem_nil, .inl rfl, ?_, fun _ _ => ⟨rfl, gives⟩, ?_, ?_⟩
        · simp [entry]
        all_goals exact fun _ reached => absurd lost reached
      · obtain ⟨string, run, after, w', read, written, free, terminator, gives, stops⟩ :=
          readCStringInto_of_reached stands fails lost room
        refine ⟨string, run, after, w', read, ⟨written, free, terminator, ?_, ?_, fun _ _ => gives, fun _ _ => stops⟩, ?_⟩
        · simp [entry]
        · exact fun _ lost' => absurd lost' lost
        · rintro rfl
          rcases terminator with rfl | made
          · exact written.of_no_text
          · cases string <;> cases made

/-- A stream with seven bytes, the last of which cannot be read. -/
def failing : World :=
  (register {} .created
    (.supplied { data := #[111, 110, 101, 10, 116, 119, 111], failAt := some 6, failCode := -7, reportedSize := 7 })).2

theorem lines_and_strings_touch_failing :
    let buffer : Bytes := List.replicate 8 0xaa
    (∀ origin s, failing.table.entry? .first = some ⟨origin, .supplied s⟩ → s.failCode < 0) ∧
      failing.table.isLive .first = true ∧ buffer ≠ [] ∧
      (failing.readLineInto .first buffer).1 = (true, [111, 110, 101, 10, 0, 0xaa, 0xaa, 0xaa]) ∧
      (∃ line after w', failing.readLineInto .first buffer = ((decide (line ≠ []), after), w') ∧
        LineTaken .first buffer line after failing w') ∧
      (failing.readCStringInto .first 4 buffer).1 = (true, [116, 119, 0, 0xaa, 0xaa, 0xaa, 0xaa, 0xaa]) ∧
      ∃ string run after w', failing.readCStringInto .first 4 buffer = ((decide (run ≠ []), after), w') ∧
        StringTaken .first 4 buffer string run after failing w' ∧ (run = [] → after = 0 :: buffer.tail) := by
  intro buffer
  have below : ∀ origin s, failing.table.entry? .first = some ⟨origin, .supplied s⟩ → s.failCode < 0 := by
    rintro origin s found
    obtain rfl : s = _ := by
      cases found
      rfl
    decide
  have live : failing.table.isLive .first = true := by rfl
  have room : buffer ≠ [] := by simp [buffer]
  obtain ⟨line, -, string⟩ := (lines_and_strings_touch .first failing below 4 buffer).2 room
  exact ⟨below, live, room, by rfl, line live, by rfl, string⟩

end World
end ScriptStreams
