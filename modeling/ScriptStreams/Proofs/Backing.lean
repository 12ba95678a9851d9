import ScriptStreams.Source
import ScriptStreams.Proofs.Cursor
import ScriptStreams.Proofs.Mapped
import ScriptStreams.Proofs.Simulation
/-!
# Files, open files and windows as cursors

A file, a readable shared open file and a fully mapped window differ in everything but in what they
amount to: bytes and a position (`Source.Shows`). As devices they cannot be told from a cursor over these
bytes (`Source.simulates_cursor`).
-/
namespace ScriptStreams

variable {σ : Type}

/-! ## Reads that are answered at once -/

/-- A source that gives all it has in its first answer, or all that was asked for, fills a read with it. -/
theorem fill_of_prompt {ask : Nat → σ → Delivery × σ} {want : Nat} {s s' : σ} {bs : Bytes}
    (first : ask want s = (.bytes bs, s')) (short : bs.length ≤ want) (still : bs = [] → s' = s)
    (ended : bs.length < want → ∀ k, ask k s' = (.bytes [], s')) : fill ask want s = (⟨bs.length, bs⟩, s') := by
  have gathered : gather ask want want s = (bs, false, s') := by
    cases want with
    | zero =>
      obtain rfl : bs = [] := List.length_eq_zero_iff.1 (Nat.le_zero.1 short)
      rw [still rfl]
      rfl
    | succ want =>
      cases bs with
      | nil => simp [gather, first]
      | cons b bs =>
        have rest : gather ask want (want + 1 - (b :: bs).length) s' = ([], false, s') := by
          cases want with
          | zero => rfl
          | succ want =>
            by_cases full : bs.length = want + 1
            · simp [gather, full]
            · have ends := ended (by simp at short ⊢; omega)
              simp [gather, ends]
        simp only [gather, first, Nat.add_eq_zero_iff, Nat.one_ne_zero, and_false, if_false]
        rw [rest]
        simp
  simp only [fill, gathered]

theorem slice_eq_nil {content : Array UInt8} {pos : Nat} (h : content.size ≤ pos) (k : Nat) :
    Bytes.slice content pos k = [] := by
  rw [Bytes.slice_eq, List.drop_eq_nil_of_le (by simpa using h), List.take_nil]

/-- Behind a read that came short there is nothing. -/
theorem slice_after_short {content : Array UInt8} {pos n : Nat}
    (short : (Bytes.slice content pos n).length < n) (k : Nat) :
    Bytes.slice content (pos + (Bytes.slice content pos n).length) k = [] := by
  refine slice_eq_nil ?_ k
  have := Bytes.length_slice content pos n
  omega

theorem length_slice_le (content : Array UInt8) (pos n : Nat) : (Bytes.slice content pos n).length ≤ n := by
  have := Bytes.length_slice content pos n
  omega

/-- A read of a file gives what there is from its position on. -/
theorem fill_deliverFile (content : Array UInt8) (n pos : Nat) :
    fill (Source.deliverFile content) n pos =
      (⟨(Bytes.slice content pos n).length, Bytes.slice content pos n⟩, pos + (Bytes.slice content pos n).length) := by
  refine fill_of_prompt rfl (length_slice_le content pos n) (fun h => by rw [h]; rfl) fun short k => ?_
  simp [Source.deliverFile, slice_after_short short]

theorem OpenFile.read_file {fs : Files} {id : FileId} {mode : OpenMode} (readable : mode.readable = true)
    (n pos : Nat) :
    OpenFile.read fs n (.file id mode pos) =
      (⟨(Bytes.slice (fs.content id) pos n).length, Bytes.slice (fs.content id) pos n⟩,
        .file id mode (pos + (Bytes.slice (fs.content id) pos n).length)) := by
  refine fill_of_prompt ?_ (length_slice_le _ pos n) (fun h => by rw [h]; rfl) fun short k => ?_
  · simp [OpenFile.deliver, readable]
  · simp [OpenFile.deliver, readable, slice_after_short short]

/-! ## Seeks -/

theorem Cursor.seek_eq (c : Cursor) (offset : Int) (whence : Whence) :
    c.seek offset whence = match landing c.pos c.content.length offset whence with
      | some target => (target, { c with pos := target })
      | none => (-1, c) := by
  have base : c.base whence = whence.base c.pos c.content.length := by cases whence <;> rfl
  have top : (maxPosition : Int) = 0x7fffffffffffffff := rfl
  simp only [Cursor.seek, landing, base, top]
  split
  · next h => simp [Int.toNat_of_nonneg h.1]
  · rfl

namespace Source

/-- The source amounts to the cursor. Supplied sources report and fail as they like. -/
def Shows : Source × Environment → Cursor → Prop
  | (.file id pos, env), c => (env.files.content id).toList = c.content ∧ pos = c.pos
  | (.shared n, env), c => ∃ id mode, env.openFiles.get? n = some (.file id mode c.pos) ∧ mode.readable = true ∧
      (env.files.content id).toList = c.content
  | (.window w, env), c => w.pos = c.pos ∧ w.size = c.content.length ∧ env.image.Tidy ∧
      env.image.Maps w.start c.content ∧ w.start + w.size ≤ addressLimit
  | (.supplied _, _), _ => False

theorem Shows.seek {x : Source × Environment} {c : Cursor} (h : Shows x c) (offset : Int) (whence : Whence) :
    Agree Shows (Source.seek offset whence x) (c.seek offset whence) := by
  obtain ⟨source, env⟩ := x
  rw [Cursor.seek_eq]
  cases source with
  | file id pos =>
    obtain ⟨content, rfl⟩ := h
    have size : env.files.size id = c.content.length := by rw [← content]; rfl
    simp only [Source.seek, size]
    cases landing c.pos c.content.length offset whence <;> exact ⟨rfl, content, rfl⟩
  | shared n =>
    obtain ⟨id, mode, found, readable, content⟩ := h
    have size : env.files.size id = c.content.length := by rw [← content]; rfl
    simp only [Source.seek, found, OpenFile.seek, size]
    cases landing c.pos c.content.length offset whence <;>
      exact ⟨rfl, id, mode, Keyed.get?_set_self _ _ _, readable, content⟩
  | window w =>
    obtain ⟨pos, size, image⟩ := h
    simp only [Source.seek, Window.seek, pos, size]
    cases landing c.pos c.content.length offset whence with
    | none => exact ⟨rfl, pos, size, image⟩
    | some target => exact ⟨rfl, rfl, rfl, image.1, image.2.1, size ▸ image.2.2⟩
  | supplied s => exact h.elim

theorem Shows.size {x : Source × Environment} {c : Cursor} (h : Shows x c) : Source.size x = c.content.length := by
  obtain ⟨source, env⟩ := x
  cases source with
  | file id pos =>
    obtain ⟨content, -⟩ := h
    rw [← content]
    rfl
  | shared n =>
    obtain ⟨id, mode, found, -, content⟩ := h
    simp only [Source.size, found]
    rw [← content]
    rfl
  | window w => exact congrArg Int.ofNat h.2.1
  | supplied s => exact h.elim

theorem slice_of_content {content : Array UInt8} {c : Cursor} (h : content.toList = c.content) (n : Nat) :
    Bytes.slice content c.pos n = c.rest.take n := by
  rw [Bytes.slice_eq, h, Cursor.rest]

/-- A window copies the bytes from the position on that are asked for and in the window. -/
theorem window_read {w : Window} {env : Environment} {c : Cursor} (h : Shows (.window w, env) c) (n : Nat) :
    w.read env.image.reader n =
      (⟨(c.rest.take n).length, c.rest.take n⟩, { w with pos := w.pos + (c.rest.take n).length }) := by
  obtain ⟨pos, size, tidy, mapped, inside⟩ := h
  have left : c.rest.length = w.size - w.pos := by simp [Cursor.rest, pos, size]
  have short : (c.rest.take n).length = min n (w.size - w.pos) := by simp [left]
  unfold Window.read
  dsimp only
  split
  · next none_wanted =>
    have empty : c.rest.take n = [] := List.length_eq_zero_iff.1 (by omega)
    simp [empty]
  · next wanted =>
    have copied : env.image.reader.read (w.start + w.pos) (min n (w.size - w.pos)) = c.rest.take n := by
      have within : min n (w.size - w.pos) ≤ (c.content.drop w.pos).length := by
        rw [List.length_drop, ← size]
        omega
      have read := tidy.read_eq (mapped.drop w.pos) within (by omega)
      refine read.trans ?_
      rw [pos, ← Cursor.rest, List.take_eq_take_iff]
      omega
    rw [copied]
    split
    · next empty => simp [empty] at short; omega
    · rfl

theorem Shows.read {x : Source × Environment} {c : Cursor} (h : Shows x c) (n : Nat) :
    Agree Shows (Source.read n x) (Cursor.device.read n c) := by
  obtain ⟨source, env⟩ := x
  cases source with
  | file id pos =>
    obtain ⟨content, rfl⟩ := h
    simp only [Source.read, fill_deliverFile, slice_of_content content]
    exact ⟨rfl, content, rfl⟩
  | shared k =>
    obtain ⟨id, mode, found, readable, content⟩ := h
    simp only [Source.read, found, OpenFile.read_file readable, slice_of_content content]
    exact ⟨rfl, id, mode, Keyed.get?_set_self _ _ _, readable, content⟩
  | window w =>
    simp only [Source.read, window_read h]
    obtain ⟨pos, size, image⟩ := h
    exact ⟨rfl, congrArg (· + (c.rest.take n).length) pos, size, image⟩
  | supplied s => exact h.elim

/-- **One semantics for all media.** -/
theorem simulates_cursor : device.Simulates Cursor.device Shows where
  seek offset whence _ _ h := h.seek offset whence
  size h := h.size
  read n _ _ h := h.read n

end Source
end ScriptStreams
