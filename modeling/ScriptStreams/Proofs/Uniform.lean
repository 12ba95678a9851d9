import Mathlib
import ScriptStreams.Proofs.Answers
import ScriptStreams.Proofs.History
/-!
# One semantics for all media

A file opened by path, a mapped window of memory and a readable open file that is shared all give the
answers of a cursor at the beginning of the same bytes, to every sequence of steps on the stream and
after whatever happened before (`Session.one_semantics`). So no step tells one of them from another.
-/
namespace ScriptStreams

namespace World

/-- The path, a remote one below the remote root, leads to a file with these bytes. -/
def FileHolds (w : World) (path : String) (remote : Bool) (content : Bytes) : Prop :=
  ∃ resolved id, (if remote then w.host.config.resolveRemote path else some path) = some resolved ∧
    w.env.files.fileAt resolved = .ok id ∧ (w.env.files.content id).toList = content

/-- Memory can be read, and a window of this size (0 asks for what is mapped) has just these bytes. -/
structure MemoryHolds (w : World) (start size : Nat) (content : Bytes) : Prop where
  readable : w.host.hasMemory = true
  tidy : w.env.image.Tidy
  mapped : w.env.image.Maps start content
  size : size = content.length ∨ size = 0 ∧ w.env.image.extent start = content.length
  nonempty : content ≠ []
  short : content.length ≤ maxPosition
  addressable : start + content.length < addressLimit

/-- The shared open file is readable, stands at its beginning and has these bytes. -/
def OpenFileHolds (w : World) (openFile : Nat) (content : Bytes) : Prop :=
  ∃ id mode, w.env.openFiles.get? openFile = some (.file id mode 0) ∧ mode.readable = true ∧
    (w.env.files.content id).toList = content

theorem MemoryHolds.congr {w w' : World} {start size : Nat} {content : Bytes} (h : w.MemoryHolds start size content)
    (env : w'.env = w.env) (host : w'.host = w.host) : w'.MemoryHolds start size content where
  readable := host ▸ h.readable
  tidy := env ▸ h.tidy
  mapped := env ▸ h.mapped
  size := env ▸ h.size
  nonempty := h.nonempty
  short := h.short
  addressable := h.addressable

variable {v w : World} {path : String} {remote : Bool} {start size openFile : Nat} {content : Bytes}

/-! ## Opening -/

/-- A stream that was just registered amounts to what its source shows. -/
theorem serves_register {source : Source} {c : Cursor} (o : StreamOrigin) (shows : Source.Shows (source, w.env) c)
    (lends : v.LendsAs w) : Serves w.table.next v (w.register o source).2 c := by
  refine ⟨⟨(source, w.env), ⟨⟨o, ?_⟩, rfl⟩, shows⟩, lends.of_same rfl rfl rfl⟩
  exact (Table.entry?_register w.table o source w.table.next).trans (if_pos rfl)

theorem openByPath_eq (h : w.FileHolds path remote content) :
    ∃ source, w.openByPath path remote = (some w.table.next, (w.register .created source).2) ∧
      Source.Shows (source, w.env) ⟨content, 0⟩ := by
  obtain ⟨resolved, id, leads, found, holds⟩ := h
  refine ⟨.file id 0, ?_, holds, rfl⟩
  unfold openByPath
  rw [leads]
  dsimp only
  rw [found]
  rfl

theorem createMemoryStream_eq (h : w.MemoryHolds start size content) :
    ∃ source, w.createMemoryStream start size = (some w.table.next, (w.register .created source).2) ∧
      Source.Shows (source, w.env) ⟨content, 0⟩ := by
  have window : Window.create? w.env.image.reader start size = some { start, size := content.length } := by
    have length : (if size = 0 then w.env.image.reader.extent start else size) = content.length := by
      rcases h.size with rfl | ⟨rfl, extent⟩
      · exact if_neg (mt List.length_eq_zero_iff.1 h.nonempty)
      · exact extent
    refine Window.create?_eq_some_iff.2 ⟨?_, List.length_pos_iff.2 h.nonempty, h.short, h.addressable⟩
    rw [length]
  refine ⟨.window { start, size := content.length }, ?_, rfl, rfl, h.tidy, h.mapped, Nat.le_of_lt h.addressable⟩
  unfold createMemoryStream
  rw [h.readable, window]
  rfl

theorem adaptRawHandle_eq (h : w.OpenFileHolds openFile content) :
    ∃ source, w.adaptRawHandle openFile = (some w.table.next, (w.register .adapted source).2) ∧
      Source.Shows (source, w.env) ⟨content, 0⟩ := by
  obtain ⟨id, mode, found, readable, holds⟩ := h
  refine ⟨.shared openFile, ?_, id, mode, found, readable, holds⟩
  unfold adaptRawHandle
  rw [found]
  rfl

end World

namespace Handle

/-- Closing a handle leaves the surroundings, the setup and what is lent alone. -/
theorem close_keeps (h : Handle) (w : World) : (h.close w).2.env = w.env ∧ (h.close w).2.host = w.host ∧
    (h.close w).2.pool = w.pool ∧ (h.close w).2.allocator = w.allocator := by
  obtain ⟨own, name⟩ := h
  unfold close
  split
  · cases own <;> exact ⟨rfl, rfl, rfl, rfl⟩
  · exact ⟨rfl, rfl, rfl, rfl⟩

theorem lends_close (h : Handle) {v w : World} (lends : v.LendsAs w) : v.LendsAs (h.close w).2 := by
  obtain ⟨-, host, pool, allocator⟩ := h.close_keeps w
  exact lends.of_same pool host allocator

/-- The handle gives the answers of a cursor at the beginning of these bytes, where `grants` tells which reads may have
a scratch buffer. -/
def Reads (h : Handle) (w : World) (grants : Nat → Bool) (content : Bytes) : Prop :=
  ∀ steps : List ReadStep, (∀ step ∈ steps, step.onStream = true) →
    (ReadStep.performAll h w steps).1 = Cursor.answers grants ⟨content, 0⟩ steps

theorem reads_of_serves {h : Handle} {r : StreamRef} {v w : World} {content : Bytes}
    (hr : h.ref? = some r) (serves : World.Serves r v w ⟨content, 0⟩) : h.Reads w v.grants content :=
  fun _ plain => performAll_eq hr plain serves

/-- Closing a handle leaves every stream alone that is not its own to release. -/
theorem serves_close {h : Handle} {r : StreamRef} {v w : World} {c : Cursor}
    (serves : World.Serves r v w c) (other : ∀ x ∈ h.holding, x.2 ≠ r) : World.Serves r v (h.close w).2 c := by
  obtain ⟨⟨x, ⟨⟨o, entry⟩, env⟩, shows⟩, lends⟩ := serves
  have env' := (h.close_keeps w).1
  have stays : (h.close w).2.table.entry? r = w.table.entry? r := by
    obtain ⟨own, name⟩ := h
    unfold close
    split
    · cases own with
      | empty => rfl
      | borrowed r' => rfl
      | owned r' =>
        have ne : r' ≠ r := other (.created, r') (by simp [holding, Ownership.holding])
        exact Table.entry?_release_ne w.table .created ne
      | adapted r' =>
        have ne : r' ≠ r := other (.adapted, r') (by simp [holding, Ownership.holding])
        exact Table.entry?_release_ne w.table .adapted ne
    · rfl
  exact ⟨⟨x, ⟨⟨o, stays.trans entry⟩, env'.trans env⟩, shows⟩, h.lends_close lends⟩

theorem openPath_of_call {h : Handle} {path : String} {remote : Bool} {w w' : World} {r : StreamRef}
    (called : (h.close w).2.call .openByPath (World.openByPath path remote) = (some r, w')) :
    h.openPath path remote w = (.ok (), ⟨.owned r, path⟩, w'.note .inputOpened) := by
  unfold openPath
  dsimp only
  rw [called]

theorem openMemory_of_call {h : Handle} {start size : Nat} {w w' : World} {r : StreamRef}
    (called : w.call .createMemoryStream (World.createMemoryStream start size) = (some r, w')) :
    h.openMemory start size w = (.ok (), ⟨.owned r, memoryName⟩, (h.close w').2.note .memoryInputOpened) := by
  unfold openMemory
  rw [called]

theorem ofRaw_of_call {openFile : Nat} {w w' : World} {r : StreamRef}
    (called : w.call .adaptRawHandle (World.adaptRawHandle openFile) = (some r, w')) :
    ofRaw openFile w = (some ⟨.adapted r, rawName openFile⟩, w'.note .rawHandleAdapted) := by
  unfold ofRaw
  rw [called]

variable {w : World} {content : Bytes}

theorem reads_openPath {path : String} {remote : Bool} (pool : w.pool.Sound) (h : Handle)
    (holds : w.FileHolds path remote content) :
    ∃ h' w', h.openPath path remote w = (.ok (), h', w') ∧ h'.Reads w' w.grants content := by
  obtain ⟨env, host, -⟩ := h.close_keeps w
  have holds' : ((h.close w).2.atCall .openByPath).FileHolds path remote content := by
    simpa only [World.FileHolds, World.atCall, env, host] using holds
  obtain ⟨source, opened, shows⟩ := World.openByPath_eq holds'
  have lends : w.LendsAs ((h.close w).2.atCall .openByPath) := (h.lends_close (.refl pool)).of_same rfl rfl rfl
  obtain ⟨shows', lends'⟩ := World.serves_register .created shows lends
  exact ⟨_, _, openPath_of_call (World.call_of_eq opened), reads_of_serves rfl ⟨shows', lends'.of_same rfl rfl rfl⟩⟩

/-- The stream that the handle held is released after the new one is there. -/
theorem serves_openMemory {start size : Nat} (pool : w.pool.Sound) {h : Handle}
    (issued : ∀ x ∈ h.holding, x.2 ≠ w.table.next) (holds : w.MemoryHolds start size content) :
    ∃ r w', h.openMemory start size w = (.ok (), ⟨.owned r, memoryName⟩, w') ∧
      World.Serves r w w' ⟨content, 0⟩ := by
  have holds' : (w.atCall .createMemoryStream).MemoryHolds start size content := holds.congr rfl rfl
  obtain ⟨source, opened, shows⟩ := World.createMemoryStream_eq holds'
  have lends : w.LendsAs (w.atCall .createMemoryStream) := (World.LendsAs.refl pool).of_same rfl rfl rfl
  obtain ⟨shows', lends'⟩ := World.serves_register .created shows lends
  obtain ⟨w₁, called, serves⟩ : ∃ w₁, w.call .createMemoryStream (World.createMemoryStream start size) =
      (some w.table.next, w₁) ∧ World.Serves w.table.next w w₁ ⟨content, 0⟩ :=
    ⟨_, World.call_of_eq opened, shows', lends'.of_same rfl rfl rfl⟩
  have closed := serves_close serves issued
  exact ⟨_, _, openMemory_of_call called, closed.shows, closed.lends.of_same rfl rfl rfl⟩

theorem reads_openMemory {start size : Nat} (pool : w.pool.Sound) {h : Handle}
    (issued : ∀ x ∈ h.holding, x.2 ≠ w.table.next) (holds : w.MemoryHolds start size content) :
    ∃ h' w', h.openMemory start size w = (.ok (), h', w') ∧ h'.Reads w' w.grants content := by
  obtain ⟨r, w', opened, serves⟩ := serves_openMemory pool issued holds
  exact ⟨_, w', opened, reads_of_serves rfl serves⟩

theorem reads_ofRaw {openFile : Nat} (pool : w.pool.Sound) (holds : w.OpenFileHolds openFile content) :
    ∃ h' w', ofRaw openFile w = (some h', w') ∧ h'.Reads w' w.grants content := by
  obtain ⟨source, opened, shows⟩ := World.adaptRawHandle_eq (w := w.atCall .adaptRawHandle) holds
  have lends : w.LendsAs (w.atCall .adaptRawHandle) := (World.LendsAs.refl pool).of_same rfl rfl rfl
  obtain ⟨shows', lends'⟩ := World.serves_register .adapted shows lends
  exact ⟨_, _, ofRaw_of_call (World.call_of_eq opened), reads_of_serves rfl ⟨shows', lends'.of_same rfl rfl rfl⟩⟩

end Handle

namespace Session

/-- **One semantics for all media.** Let any steps have been made, on handles, on the table or around them. Then
whatever handle is opened on a file by path or on a window of mapped memory, and whatever shared open file
that stands at its beginning is adapted: if the bytes are the same, so are the answers to all sequences of
seeks and reads, and they are those of a cursor over these bytes, where the reads that may have a scratch buffer are
those that are granted one now. -/
theorem one_semantics (world : World) (showsCalls : Bool) (pool : world.pool.Sound) (history : List SessionStep)
    (content : Bytes) :
    let s := ((start world showsCalls).run history).2
    let grants := s.world.grants
    (∀ name h path remote, s.handles.get? name = some h → s.world.FileHolds path remote content →
      ∃ h' w', h.openPath path remote s.world = (.ok (), h', w') ∧ h'.Reads w' grants content) ∧
    (∀ name h start size, s.handles.get? name = some h → s.world.MemoryHolds start size content →
      ∃ h' w', h.openMemory start size s.world = (.ok (), h', w') ∧ h'.Reads w' grants content) ∧
    (∀ openFile, s.world.OpenFileHolds openFile content →
      ∃ h' w', Handle.ofRaw openFile s.world = (some h', w') ∧ h'.Reads w' grants content) := by
  intro s grants
  have inOrder : s.InOrder := inOrder_run showsCalls pool history
  refine ⟨fun name h path remote _ holds => ?_, fun name h start size found holds => ?_, fun openFile holds => ?_⟩
  · exact Handle.reads_openPath inOrder.2.pool h holds
  · exact Handle.reads_openMemory inOrder.2.pool (inOrder.next_ne found) holds
  · exact Handle.reads_ofRaw inOrder.2.pool holds

/-- The same line in a file, across two segments of memory and in a shared open file. -/
def sameLine : World where
  env := {
    files := { tree := [(["a"], .file 0)], contents := [(0, #[104, 105, 10])], next := 1 }
    openFiles := [(0, .file 0 .read 0)]
    image := [⟨16, #[104]⟩, ⟨17, #[105, 10]⟩] }

/-- A handle has some of the memory open already. -/
def halfOpened : Session := ((start sameLine true).run [.handle "h" .new, .handle "h" (.openMemory 16 2)]).2

theorem memoryHolds_halfOpened : halfOpened.world.MemoryHolds 16 0 [104, 105, 10] where
  readable := rfl
  tidy := by
    have image : halfOpened.world.env.image = sameLine.env.image := by rfl
    rw [image]
    exact ⟨by simp [sameLine], by simp [sameLine]⟩
  mapped := by
    have image : halfOpened.world.env.image = sameLine.env.image := by rfl
    rw [image]
    intro i b hb
    obtain ⟨hi, rfl⟩ := List.getElem?_eq_some_iff.1 hb
    match i, hi with
    | 0, _ => exact ⟨⟨16, #[104]⟩, by simp [sameLine], by simp⟩
    | 1, _ => exact ⟨⟨17, #[105, 10]⟩, by simp [sameLine], by simp⟩
    | 2, _ => exact ⟨⟨17, #[105, 10]⟩, by simp [sameLine], by simp⟩
  size := Or.inr ⟨rfl, by cbv⟩
  nonempty := by simp
  short := by decide
  addressable := by decide

theorem one_semantics_halfOpened :
    let h : Handle := ⟨.owned .first, Handle.memoryName⟩
    let grants := halfOpened.world.grants
    sameLine.pool.Sound ∧
      (∃ h' w', h.openPath "a" false halfOpened.world = (.ok (), h', w') ∧ h'.Reads w' grants [104, 105, 10]) ∧
      (∃ h' w', h.openMemory 16 0 halfOpened.world = (.ok (), h', w') ∧ h'.Reads w' grants [104, 105, 10]) ∧
      (∃ h' w', Handle.ofRaw 0 halfOpened.world = (some h', w') ∧ h'.Reads w' grants [104, 105, 10]) := by
  intro h grants
  have unused : sameLine.pool.Sound := Scratch.Pool.sound_empty
  obtain ⟨byPath, overMemory, overOpenFile⟩ := one_semantics sameLine true unused
    [.handle "h" .new, .handle "h" (.openMemory 16 2)] [104, 105, 10]
  have found : halfOpened.handles.get? "h" = some h := by rfl
  have file : halfOpened.world.FileHolds "a" false [104, 105, 10] := ⟨"a", 0, rfl, by cbv, rfl⟩
  have openFile : halfOpened.world.OpenFileHolds 0 [104, 105, 10] := ⟨0, .read, rfl, rfl, rfl⟩
  exact ⟨unused, byPath "h" h "a" false found file, overMemory "h" h 16 0 found memoryHolds_halfOpened,
    overOpenFile 0 openFile⟩

end Session
end ScriptStreams
