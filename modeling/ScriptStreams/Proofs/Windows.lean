import ScriptStreams.Proofs.Pool
import ScriptStreams.Proofs.SessionMoves
import ScriptStreams.Proofs.Streams
/-!
# Windows of the runtime lock

While a session runs it holds the runtime lock. A call to a primitive is made in a window, with the lock
free, and the lock is held again after it; a handle that is dropped releases its stream without a
window. So windows and calls can be counted against each other (`Works`): each window is for one call, but for
those in which a handle that closes lets go of a borrowed stream, which takes no call. How many windows an
operation opens depends on what the handle holds, on whether a stream could be made and on whether a scratch
buffer was granted (`HandleStep.traffic`).
-/
namespace ScriptStreams

/-- Windows that were opened, and how many of them were for letting go of a borrowed stream. -/
structure Traffic where
  windows : Nat := 0
  detached : Nat := 0

namespace Traffic

instance : Add Traffic := ⟨fun a b => ⟨a.windows + b.windows, a.detached + b.detached⟩⟩

@[simp] theorem windows_add (a b : Traffic) : (a + b).windows = a.windows + b.windows := rfl

@[simp] theorem detached_add (a b : Traffic) : (a + b).detached = a.detached + b.detached := rfl

theorem empty_add (a : Traffic) : {} + a = a := by
  show Traffic.mk (0 + a.windows) (0 + a.detached) = a
  rw [Nat.zero_add, Nat.zero_add]

/-- One window, for a call. -/
def call : Traffic := { windows := 1 }

end Traffic

/-! ## Primitives -/

namespace World

/-- The lock and the record of calls are as they were. -/
def Quiet (w w' : World) : Prop := w'.lock = w.lock ∧ w'.calls = w.calls

variable {w w' w'' : World}

theorem Quiet.trans (first : Quiet w w') (second : Quiet w' w'') : Quiet w w'' :=
  ⟨second.1.trans first.1, second.2.trans first.2⟩

theorem quiet_noteAll (w : World) (e : Option Event) : Quiet w (w.noteAll e) := by
  cases e <;> exact ⟨rfl, rfl⟩

theorem quiet_withStream {α : Type} (w : World) (r : StreamRef) (f : Source × Environment → α × Source × Environment) :
    Quiet w (w.withStream r f).2 := by
  unfold withStream
  split <;> exact ⟨rfl, rfl⟩

theorem quiet_register (w : World) (o : StreamOrigin) (source : Source) : Quiet w (w.register o source).2 := ⟨rfl, rfl⟩

theorem quiet_release (w : World) (o : StreamOrigin) (r : StreamRef) : Quiet w (w.release o r) := ⟨rfl, rfl⟩

theorem quiet_openByPath (w : World) (path : String) (remote : Bool) : Quiet w (w.openByPath path remote).2 := by
  unfold openByPath
  split
  · exact ⟨rfl, rfl⟩
  · split <;> exact ⟨rfl, rfl⟩

theorem quiet_createMemoryStream (w : World) (start size : Nat) : Quiet w (w.createMemoryStream start size).2 := by
  unfold createMemoryStream
  split
  · exact ⟨rfl, rfl⟩
  · split <;> exact ⟨rfl, rfl⟩

theorem quiet_adaptRawHandle (w : World) (openFile : Nat) : Quiet w (w.adaptRawHandle openFile).2 := by
  unfold adaptRawHandle
  split <;> exact ⟨rfl, rfl⟩

theorem quiet_loadSpace (w : World) (r : StreamRef) (filePos : Int) (start stop : Nat) (patchable : Bool) :
    Quiet w (w.loadSpace r filePos start stop patchable).2 := by
  have passed : Quiet w (w.space.load w.allocator (device r) filePos start stop patchable w).2.2 :=
    (AddressSpace.reach_load w.allocator (device r) w.space filePos start stop patchable w).preserves (P := Quiet w)
      (fun offset whence v kept => kept.trans (v.quiet_withStream r (Source.seek offset whence)))
      (fun n v kept => kept.trans (v.quiet_withStream r (Source.read n))) ⟨rfl, rfl⟩
  unfold loadSpace
  split
  next outcome space v loaded =>
    rw [loaded] at passed
    exact passed.trans (quiet_noteAll { v with space := space } outcome.event?)

theorem quiet_loadRange (w : World) (r : StreamRef) (filePos : Int) (start stop : Nat) (patchable : Bool) :
    Quiet w (w.loadRange r filePos start stop patchable).2 := by
  unfold loadRange
  split
  · exact ⟨rfl, rfl⟩
  · exact w.quiet_loadSpace r filePos start stop patchable

end World

/-! ## Operations -/

/-- What an operation of this traffic does to the lock and to the record of calls. -/
structure Works (t : Traffic) (w w' : World) : Prop where
  /-- Every call was made with the lock free, and with each went a window. -/
  calls : ∃ made, w'.calls = made ++ w.calls ∧ (∀ c ∈ made, c.lockHeld = false) ∧ made.length + t.detached = t.windows
  windows : w'.lock.windows = w.lock.windows + t.windows
  /-- The lock is given back. -/
  locked : w.lock.locked = true → w'.lock.locked = true

namespace Works

variable {α : Type} {t u : Traffic} {w w' w'' : World}

theorem of_quiet (quiet : w.Quiet w') : Works {} w w' := by
  obtain ⟨lock, calls⟩ := quiet
  refine ⟨⟨[], calls, by simp, rfl⟩, ?_, fun held => ?_⟩ <;> rw [lock]
  · rfl
  · exact held

theorem refl (w : World) : Works {} w w := .of_quiet ⟨rfl, rfl⟩

theorem trans (first : Works t w w') (second : Works u w' w'') : Works (t + u) w w'' := by
  obtain ⟨made, calls, free, count⟩ := first.calls
  obtain ⟨made', calls', free', count'⟩ := second.calls
  refine ⟨⟨made' ++ made, ?_, ?_, ?_⟩, ?_, fun held => second.locked (first.locked held)⟩
  · rw [calls', calls, List.append_assoc]
  · intro c mem
    rcases List.mem_append.1 mem with mem | mem
    · exact free' c mem
    · exact free c mem
  · simp only [List.length_append, Traffic.detached_add, Traffic.windows_add]
    omega
  · rw [second.windows, first.windows, Traffic.windows_add, Nat.add_assoc]

/-- What a quiet end adds counts for nothing. -/
theorem quiet (works : Works t w w') (quiet : w'.Quiet w'') : Works t w w'' := works.trans (.of_quiet quiet)

theorem make (w : World) (literal : Literal) : Works {} w (w.make literal).2 :=
  ⟨⟨[], rfl, by simp, rfl⟩, rfl, id⟩

theorem call {p : Primitive} {f : World → α × World} (quiet : ∀ w : World, w.Quiet (f w).2) (w : World) :
    Works .call w (w.call p f).2 := by
  obtain ⟨lock, calls⟩ := quiet (w.atCall p)
  rw [World.call_eq]
  refine ⟨⟨[⟨p, false⟩], calls, by simp, rfl⟩, ?_, fun _ => rfl⟩
  show (f (w.atCall p)).2.lock.windows = w.lock.windows + 1
  rw [lock]
  rfl

end Works

/-! ## Handles -/

/-- Letting go of what is held: a window for the release, or one for nothing. -/
def Ownership.closing : Ownership → Traffic
  | empty => {}
  | borrowed _ => { windows := 1, detached := 1 }
  | owned _ | adapted _ => .call

/-- The windows that a read-only step opens: one for the call, if there is a stream and the scratch buffer that
it reads through. -/
def ReadStep.windows (h : Handle) (w : World) : ReadStep → Nat
  | seek .. | tell | size | readByte | copyRange .. => if h.isOpen then 1 else 0
  | read n | readLine n => if h.isOpen && w.grants n then 1 else 0
  | readCString n _ | readSwapped n _ =>
    if h.isOpen && n + Handle.scratchGuard < Handle.sizeLimit && w.grants (n + Handle.scratchGuard) then 1 else 0
  | toCapsule | info | describe | describeView => 0

/-- The windows that a list of read-only steps opens. -/
def ReadStep.windowsOfAll (h : Handle) (w : World) : List ReadStep → Nat
  | [] => 0
  | step :: rest => step.windows h w + windowsOfAll h (step.perform h w).2 rest

/-- Opening a window over memory: what was held is let go only if it worked. -/
def Handle.openingMemory (h : Handle) (start size : Nat) (w : World) : Traffic :=
  if (h.openMemory start size w).1 = .ok () then .call + h.ownership.closing else .call

namespace Request

def traffic (h : Handle) (w : World) : Request → Traffic
  | .open _ _ => h.ownership.closing + .call
  | .openMemory start length => h.openingMemory start length w
  | .attach _ | .close => h.ownership.closing
  | .seek offset whence => { windows := (ReadStep.seek offset whence).windows h w }
  | .tell => { windows := ReadStep.tell.windows h w }
  | .size => { windows := ReadStep.size.windows h w }
  | .read n => { windows := (ReadStep.read n).windows h w }
  | .readLine n => { windows := (ReadStep.readLine n).windows h w }
  | .readCString n pos => { windows := (ReadStep.readCString n pos).windows h w }
  | .readByte => { windows := ReadStep.readByte.windows h w }
  | .readSwapped n bigEndian => { windows := (ReadStep.readSwapped n bigEndian).windows h w }
  | .copyRange filePos start stop patchable =>
    { windows := (ReadStep.copyRange filePos start stop patchable).windows h w }
  | .isOpen | .name => {}

/-- A call that fails before anything happens opens no window. -/
def trafficOfCall (name : String) (args : List Value) (h : Handle) (w : World) : Traffic :=
  match ofCall name args with
  | .ok q => q.traffic h w
  | .error _ => {}

end Request

namespace Handle

theorem works_close (h : Handle) (w : World) : Works h.ownership.closing w (h.close w).2 := by
  obtain ⟨own, name⟩ := h
  unfold close
  cases own with
  | empty => exact .refl w
  | borrowed r => exact ⟨⟨[], rfl, by simp, rfl⟩, rfl, fun _ => rfl⟩
  | owned r => exact ⟨⟨[⟨.closeCreated, false⟩], rfl, by simp, rfl⟩, rfl, fun _ => rfl⟩
  | adapted r => exact ⟨⟨[⟨.teardownAdapted, false⟩], rfl, by simp, rfl⟩, rfl, fun _ => rfl⟩

theorem works_attach (h : Handle) (r : StreamRef) (w : World) : Works h.ownership.closing w (h.attach r w).2 :=
  h.works_close w

theorem works_openPath (h : Handle) (path : String) (remote : Bool) (w : World) :
    Works (h.ownership.closing + .call) w (h.openPath path remote w).2.2 := by
  have opened := (h.works_close w).trans
    (.call (p := .openByPath) (fun w => w.quiet_openByPath path remote) (h.close w).2)
  simp only [openPath]
  split <;> next called =>
    rw [called] at opened
    exact opened.quiet ⟨rfl, rfl⟩

/-- What was held is let go once the memory window is there. -/
theorem works_openMemory (h : Handle) (start size : Nat) (w : World) :
    Works (h.openingMemory start size w) w (h.openMemory start size w).2.2 := by
  have created := Works.call (p := .createMemoryStream) (fun w => w.quiet_createMemoryStream start size) w
  unfold openingMemory openMemory
  rcases called : w.call .createMemoryStream (World.createMemoryStream start size) with ⟨_ | r, w'⟩ <;>
    rw [called] at created
  · exact created
  · exact (created.trans (h.works_close w')).quiet ⟨rfl, rfl⟩

theorem works_ofRaw (openFile : Nat) (w : World) : Works .call w (ofRaw openFile w).2 := by
  have adapted := Works.call (p := .adaptRawHandle) (fun w => w.quiet_adaptRawHandle openFile) w
  unfold ofRaw
  split <;> next called =>
    rw [called] at adapted
    exact adapted.quiet ⟨rfl, rfl⟩

theorem isOpen_eq_isSome (h : Handle) : h.isOpen = h.ref?.isSome := by
  obtain ⟨own, name⟩ := h
  cases own <;> rfl

/-- The work on a buffer is done if there is one. -/
theorem works_withScratch {n : Nat} {w : World} {f : Scratch.Buffer → World → Option Bytes × Scratch.Buffer × World}
    (works : ∀ b w, Works .call w (f b w).2.2) :
    Works { windows := if w.grants n then 1 else 0 } w (withScratch n w f).2 := by
  unfold withScratch World.grants Scratch.Pool.grants
  rcases acquired : w.pool.acquire w.allocator n w.host.config.maxScratch with ⟨_ | b, pool⟩
  · exact .of_quiet ⟨rfl, rfl⟩
  · have lent : Works {} w { w with pool := pool } := .of_quiet ⟨rfl, rfl⟩
    exact (lent.trans (works b _)).quiet ⟨rfl, rfl⟩

/-- Work on a buffer with room for more than was asked for, unless that is too long for the size type. -/
theorem works_guarded {n : Nat} {w w' : World} (huge : sizeLimit ≤ n + scratchGuard → w' = w)
    (short : n + scratchGuard < sizeLimit → Works { windows := if w.grants (n + scratchGuard) then 1 else 0 } w w') :
    Works { windows := if n + scratchGuard < sizeLimit && w.grants (n + scratchGuard) then 1 else 0 } w w' := by
  by_cases fits : n + scratchGuard < sizeLimit
  · simpa [fits] using short fits
  · rw [huge (Nat.not_lt.1 fits)]
    simpa [fits] using .refl w

theorem works_seek (h : Handle) (offset : Int) (whence : Whence) (w : World) :
    Works { windows := if h.isOpen then 1 else 0 } w (h.seek offset whence w).2 := by
  unfold seek
  rw [isOpen_eq_isSome]
  cases h.ref? with
  | none => exact .refl w
  | some r => exact .call (fun w => w.quiet_withStream r (Source.seek offset whence)) w

theorem works_tell (h : Handle) (w : World) :
    Works { windows := if h.isOpen then 1 else 0 } w (h.tell w).2 := by
  unfold tell
  rw [isOpen_eq_isSome]
  cases h.ref? with
  | none => exact .refl w
  | some r => exact .call (fun w => w.quiet_withStream r Source.device.tell) w

theorem works_size (h : Handle) (w : World) :
    Works { windows := if h.isOpen then 1 else 0 } w (h.size w).2 := by
  unfold size
  rw [isOpen_eq_isSome]
  cases h.ref? with
  | none => exact .refl w
  | some r => exact .call (f := fun w => (w.size r, w)) (fun _ => ⟨rfl, rfl⟩) w

theorem works_readByte (h : Handle) (w : World) :
    Works { windows := if h.isOpen then 1 else 0 } w (h.readByte w).2 := by
  unfold readByte
  rw [isOpen_eq_isSome]
  cases h.ref? with
  | none => exact .refl w
  | some r => exact .call (fun w => w.quiet_withStream r Source.device.nextByte) w

theorem works_copyRange (h : Handle) (filePos : Int) (start stop : Nat) (patchable : Bool) (w : World) :
    Works { windows := if h.isOpen then 1 else 0 } w (h.copyRange filePos start stop patchable w).2 := by
  unfold copyRange
  rw [isOpen_eq_isSome]
  cases h.ref? with
  | none => exact .refl w
  | some r => exact .call (fun w => w.quiet_loadRange r filePos start stop patchable) w

theorem works_read (h : Handle) (n : Nat) (w : World) :
    Works { windows := (ReadStep.read n).windows h w } w (h.read n w).2 := by
  unfold read ReadStep.windows
  rw [isOpen_eq_isSome]
  cases h.ref? with
  | none => exact .refl w
  | some r => exact works_withScratch fun b w => .call (fun w => w.quiet_withStream r (Source.read n)) w

theorem works_readLine (h : Handle) (n : Nat) (w : World) :
    Works { windows := (ReadStep.readLine n).windows h w } w (h.readLine n w).2 := by
  unfold readLine ReadStep.windows
  rw [isOpen_eq_isSome]
  cases h.ref? with
  | none => exact .refl w
  | some r => exact works_withScratch fun b w => .call (fun w => w.quiet_withStream r (Source.device.readLine n)) w

theorem works_readCString (h : Handle) (n : Nat) (pos : Option Int) (w : World) :
    Works { windows := (ReadStep.readCString n pos).windows h w } w (h.readCString n pos w).2 := by
  unfold readCString ReadStep.windows
  rw [isOpen_eq_isSome]
  cases h.ref? with
  | none => exact .refl w
  | some r =>
    refine works_guarded (fun huge => by simp [huge]) fun short => ?_
    dsimp only
    rw [if_neg (Nat.not_le.2 short)]
    exact works_withScratch fun b w => .call (fun w => w.quiet_withStream r (Source.device.readCString _ n)) w

theorem works_readSwapped (h : Handle) (n : Nat) (bigEndian : Bool) (w : World) :
    Works { windows := (ReadStep.readSwapped n bigEndian).windows h w } w (h.readSwapped n bigEndian w).2 := by
  unfold readSwapped ReadStep.windows
  rw [isOpen_eq_isSome]
  cases h.ref? with
  | none => exact .refl w
  | some r =>
    refine works_guarded (fun huge => by simp [huge]) fun short => ?_
    dsimp only
    rw [if_neg (Nat.not_le.2 short)]
    exact works_withScratch fun b w => .call (fun w => w.quiet_withStream r (Source.device.readSwapped bigEndian n)) w

theorem works_toCapsule (h : Handle) (w : World) : Works {} w (h.toCapsule w).2 := by
  unfold toCapsule
  cases h.ref? with
  | none => exact .refl w
  | some r => exact .make w (.capsule ⟨capsuleTag, r.number, r.number_pos⟩)

/-- **A read-only step** opens a window for its call and no other. -/
theorem works_readStep (h : Handle) (w : World) (step : ReadStep) :
    Works { windows := step.windows h w } w (step.perform h w).2 := by
  cases step with
  | seek offset whence => rw [ReadStep.perform, Answer.ofNumber_snd]; exact h.works_seek offset whence w
  | tell => rw [ReadStep.perform, Answer.ofNumber_snd]; exact h.works_tell w
  | size => rw [ReadStep.perform, Answer.ofNumber_snd]; exact h.works_size w
  | read n => rw [ReadStep.perform, Answer.ofData_snd]; exact h.works_read n w
  | readLine n => rw [ReadStep.perform, Answer.ofData_snd]; exact h.works_readLine n w
  | readCString n pos => rw [ReadStep.perform, Answer.ofData_snd]; exact h.works_readCString n pos w
  | readSwapped n bigEndian => rw [ReadStep.perform, Answer.ofData_snd]; exact h.works_readSwapped n bigEndian w
  | readByte => rw [ReadStep.perform, Answer.ofByte_snd]; exact h.works_readByte w
  | copyRange filePos start stop patchable =>
    rw [ReadStep.perform, Answer.ofNumber_snd]
    exact h.works_copyRange filePos start stop patchable w
  | toCapsule =>
    have made := h.works_toCapsule w
    simp only [ReadStep.perform]
    split <;> next hc => rw [hc] at made; exact made
  | info | describe | describeView => exact .refl w

theorem works_readSteps (h : Handle) (w : World) (steps : List ReadStep) :
    Works { windows := ReadStep.windowsOfAll h w steps } w (ReadStep.performAll h w steps).2 := by
  induction steps generalizing w with
  | nil => exact .refl w
  | cons step rest ih => exact (h.works_readStep w step).trans (ih _)

/-! ### Script methods -/

theorem intResult_world (h : Handle) (x : Except StreamError Int × World) : (h.intResult x).2.2 = x.2 := by
  obtain ⟨_ | _, w⟩ := x <;> rfl

theorem works_bytesOrNone (data : Option Bytes) (w : World) : Works {} w (bytesOrNone data w).2 := by
  cases data with
  | none => exact .refl w
  | some data => exact .make w (.bytes data)

theorem works_textOrNone (data : Option Bytes) (w : World) : Works {} w (textOrNone data w).2 := by
  cases data with
  | none => exact .refl w
  | some data => exact .make w (.text data)

theorem works_dataResult (h : Handle) {t : Traffic} {w : World} {make : Option Bytes → World → Value × World}
    {x : Except StreamError (Option Bytes) × World} (works : Works t w x.2)
    (made : ∀ data w, Works {} w (make data w).2) : Works t w (h.dataResult make x).2.2 := by
  obtain ⟨_ | data, w'⟩ := x
  · exact works
  · exact works.trans (made data w')

/-- **A request** has the traffic of the operation that it asks for. -/
theorem works_perform (h : Handle) (q : Request) (w : World) : Works (q.traffic h w) w (h.perform q w).2.2 := by
  cases q with
  | «open» path remote =>
    rw [perform, openResult_snd]
    exact h.works_openPath path remote w
  | openMemory start size =>
    rw [perform, openResult_snd]
    exact h.works_openMemory start size w
  | attach r => exact h.works_attach r w
  | close => exact h.works_close w
  | seek offset whence =>
    rw [perform, intResult_world]
    exact h.works_seek offset whence w
  | tell =>
    rw [perform, intResult_world]
    exact h.works_tell w
  | size =>
    rw [perform, intResult_world]
    exact h.works_size w
  | read n => exact h.works_dataResult (h.works_read n w) works_bytesOrNone
  | readLine n => exact h.works_dataResult (h.works_readLine n w) works_textOrNone
  | readCString n pos => exact h.works_dataResult (h.works_readCString n pos w) works_textOrNone
  | readSwapped n bigEndian => exact h.works_dataResult (h.works_readSwapped n bigEndian w) works_bytesOrNone
  | readByte =>
    have read := h.works_readByte w
    simp only [perform]
    split <;> next hb => rw [hb] at read; exact read
  | copyRange filePos start stop patchable =>
    rw [perform, intResult_world]
    exact h.works_copyRange filePos start stop patchable w
  | isOpen => exact .refl w
  | name => exact .make w (.text (Text.toBytes h.name))

theorem works_callMethod (h : Handle) (name : String) (args : List Value) (w : World) :
    Works (Request.trafficOfCall name args h w) w (h.callMethod name args w).2.2 := by
  unfold callMethod Request.trafficOfCall
  cases Request.ofCall name args with
  | error fault => exact .refl w
  | ok q =>
    have performed := h.works_perform q w
    dsimp only
    split <;> next hq => rw [hq] at performed; exact performed

end Handle

theorem Works.makeAll (literals : List Literal) (w : World) : Works {} w (w.makeAll literals).2 := by
  induction literals generalizing w with
  | nil => exact .refl w
  | cons l rest ih => exact (Works.make w l).trans (ih _)

/-! ## Drops -/

/-- The calls that dropping a handle makes while the lock is held. -/
def Handle.dropCalls (h : Handle) : List Call := h.holding.map fun x => ⟨x.1.releaseCall, true⟩

theorem Handle.lockHeld_of_mem_dropCalls {h : Option Handle} {c : Call} (mem : c ∈ h.elim [] Handle.dropCalls) :
    c.lockHeld = true := by
  cases h with
  | none => cases mem
  | some h =>
    obtain ⟨x, -, rfl⟩ := List.mem_map.1 mem
    rfl

/-- **Dropping a handle** opens no window. -/
theorem Handle.lock_drop (h : Handle) (w : World) : (h.drop w).lock = w.lock := by
  obtain ⟨own, name⟩ := h
  cases own <;> rfl

theorem Handle.calls_drop (h : Handle) {w : World} (held : w.lock.locked = true) :
    (h.drop w).calls = h.dropCalls ++ w.calls := by
  obtain ⟨own, name⟩ := h
  cases own with
  | empty => rfl
  | borrowed r => rfl
  | owned r =>
    show ⟨.closeCreated, w.lock.locked⟩ :: w.calls = _
    rw [held]
    rfl
  | adapted r =>
    show ⟨.teardownAdapted, w.lock.locked⟩ :: w.calls = _
    rw [held]
    rfl

/-! ## Sessions -/

/-- The traffic of an operation on the handle of a name, if there is one. -/
def Session.trafficOn (s : Session) (name : String) (t : Handle → Traffic) : Traffic := (s.handles.get? name).elim {} t

namespace HandleStep

/-- The traffic of a step on the handle of a name. A handle that is dropped or replaced on the way adds none. -/
def traffic (s : Session) (name : String) : HandleStep → Traffic
  | .new | .fromStream _ | .fromCapsule _ | .drop | .copy _ => {}
  | .fromRaw raw => if s.rawNames.contains raw then .call else {}
  | .openPath _ _ => s.trafficOn name fun h => h.ownership.closing + .call
  | .openMemory start size => s.trafficOn name fun h => h.openingMemory start size s.world
  | .attach _ | .close => s.trafficOn name fun h => h.ownership.closing
  | .read step => s.trafficOn name fun h => { windows := step.windows h s.world }
  | .view steps => s.trafficOn name fun h => { windows := ReadStep.windowsOfAll h.copy s.world steps }
  | .call method args => s.trafficOn name fun h =>
    Request.trafficOfCall method (s.world.makeAll args).1 h (s.world.makeAll args).2

/-- The handle that a step drops, itself or to put another in its place. -/
def dropped? (s : Session) (name : String) : HandleStep → Option Handle
  | .new | .fromStream _ | .drop => s.handles.get? name
  | .fromCapsule literal => (Handle.ofCapsule? (s.world.make literal).1).bind fun _ => s.handles.get? name
  | .fromRaw raw => (s.rawNames.get? raw).bind fun openFile =>
    (Handle.ofRaw openFile s.world).1.bind fun _ => s.handles.get? name
  | .copy target => (s.handles.get? name).bind fun _ => s.handles.get? target
  | _ => none

/-- The calls that a step makes to release the stream of a dropped handle. -/
def dropCalls (s : Session) (name : String) (step : HandleStep) : List Call :=
  (step.dropped? s name).elim [] Handle.dropCalls

end HandleStep

namespace Session

variable {s : Session}

theorem dropHandle_quietly (held : s.world.lock.locked = true) (name : String) :
    (s.dropHandle name).world.lock = s.world.lock ∧
      (s.dropHandle name).world.calls = (s.handles.get? name).elim [] Handle.dropCalls ++ s.world.calls := by
  unfold dropHandle
  cases s.handles.get? name with
  | none => exact ⟨rfl, rfl⟩
  | some h => exact ⟨h.lock_drop s.world, h.calls_drop held⟩

/-- Working first and dropping a handle then, as a step of this traffic does that makes these calls on dropping. -/
def WorksThenDrops (t : Traffic) (drops : List Call) (w w' : World) : Prop :=
  ∃ v, Works t w v ∧ w'.lock = v.lock ∧ w'.calls = drops ++ v.calls

theorem worksThenDrops_onHandle (name : String) {t : Handle → Traffic} {op : Handle → World → Answer × Handle × World}
    (works : ∀ h, Works (t h) s.world (op h s.world).2.2) :
    WorksThenDrops (s.trafficOn name t) [] s.world (s.onHandle name op).2.world := by
  unfold onHandle trafficOn
  cases s.handles.get? name with
  | none => exact ⟨_, .refl s.world, rfl, rfl⟩
  | some h => exact ⟨_, works h, rfl, rfl⟩

theorem worksThenDrops_storeIfMade {name : String} {made : Option Handle} {t : Traffic} {w : World}
    (held : s.world.lock.locked = true) (works : Works t s.world w) :
    WorksThenDrops t ((made.bind fun _ => s.handles.get? name).elim [] Handle.dropCalls) s.world
      ({ s with world := w }.storeIfMade name made).2.world := by
  cases made with
  | none => exact ⟨w, works, rfl, rfl⟩
  | some h =>
    obtain ⟨lock, calls⟩ := dropHandle_quietly (s := { s with world := w }) (works.locked held) name
    exact ⟨w, works, lock, calls⟩

/-- **A step on a handle** works with the lock free, call by call in windows of their own, and drops without. -/
theorem worksThenDrops_handleAnswer (held : s.world.lock.locked = true) (name : String) (step : HandleStep) :
    WorksThenDrops (step.traffic s name) (step.dropCalls s name) s.world (s.handleAnswer name step).2.world := by
  cases step with
  | new => exact ⟨_, .refl s.world, dropHandle_quietly held name⟩
  | fromStream r => exact ⟨_, .refl s.world, dropHandle_quietly held name⟩
  | fromCapsule literal => exact worksThenDrops_storeIfMade held (.make s.world literal)
  | fromRaw raw =>
    cases known : s.rawNames.get? raw <;>
      simp only [HandleStep.traffic, HandleStep.dropCalls, HandleStep.dropped?, handleAnswer, Keyed.contains, known]
    case none => exact ⟨_, .refl s.world, rfl, rfl⟩
    case some openFile => exact worksThenDrops_storeIfMade held (Handle.works_ofRaw openFile s.world)
  | openPath path remote => exact worksThenDrops_onHandle name fun h => h.works_openPath path remote s.world
  | openMemory start size => exact worksThenDrops_onHandle name fun h => h.works_openMemory start size s.world
  | attach r => exact worksThenDrops_onHandle name fun h => h.works_attach r s.world
  | close => exact worksThenDrops_onHandle name fun h => h.works_close s.world
  | drop => exact ⟨_, .refl s.world, dropHandle_quietly held name⟩
  | copy target =>
    simp only [HandleStep.traffic, HandleStep.dropCalls, HandleStep.dropped?, handleAnswer]
    cases s.handles.get? name with
    | none => exact ⟨_, .refl s.world, rfl, rfl⟩
    | some h => exact ⟨_, .refl s.world, dropHandle_quietly held target⟩
  | read step => exact worksThenDrops_onHandle name fun h => h.works_readStep s.world step
  | view steps => exact worksThenDrops_onHandle name fun h => h.copy.works_readSteps s.world steps
  | call method args =>
    refine worksThenDrops_onHandle name fun h => ?_
    have called := (Works.makeAll args s.world).trans (h.works_callMethod method (s.world.makeAll args).1 _)
    rwa [Traffic.empty_add] at called

end Session

/-! ## Runs -/

namespace World

theorem quiet_tableStep (w : World) (rawNames : Keyed String Nat) (step : TableStep) :
    Quiet w (step.perform rawNames w).2 := by
  cases step with
  | openPath path remote => exact w.quiet_openByPath path remote
  | openMemory start length => exact w.quiet_createMemoryStream start length
  | adapt raw =>
    simp only [TableStep.perform]
    split
    · exact w.quiet_adaptRawHandle _
    · exact ⟨rfl, rfl⟩
  | register source => exact w.quiet_register .created (.supplied source)
  | closeCreated r => exact w.quiet_release .created r
  | tearDown r => exact w.quiet_release .adapted r
  | stats | describe | isLive | size => exact ⟨rfl, rfl⟩
  | seek r offset whence => exact w.quiet_withStream r (Source.seek offset whence)
  | tell r => exact w.quiet_withStream r Source.device.tell
  | readByte r =>
    have read : Quiet w (w.readByte r).2 := w.quiet_withStream r Source.device.nextByte
    simp only [TableStep.perform]
    split <;> next hb => rw [hb] at read; exact read
  | read r buffer => exact w.quiet_withStream r (Source.read buffer.length)
  | readSwapped r bigEndian buffer => exact w.quiet_withStream r (Source.device.readSwapped bigEndian buffer.length)
  | readLine r buffer => exact w.quiet_withStream r (Source.device.readLine buffer.length)
  | readCString r pos buffer => exact w.quiet_withStream r (Source.device.readCString pos buffer.length)

theorem quiet_spaceStep (w : World) (step : SpaceStep) : Quiet w (step.perform w).2 := by
  cases step with
  | load r filePos start stop patchable => exact w.quiet_loadSpace r filePos start stop patchable
  | read addr n =>
    simp only [SpaceStep.perform]
    split <;> exact ⟨rfl, rfl⟩
  | fileOffset addr =>
    simp only [SpaceStep.perform]
    split <;> exact ⟨rfl, rfl⟩
  | spans | isEnabled | describe => exact ⟨rfl, rfl⟩

end World

namespace SessionStep

/-- The traffic of a step. Nothing but handles opens windows. -/
def traffic (s : Session) : SessionStep → Traffic
  | handle name step => step.traffic s name
  | _ => {}

/-- The calls that a step makes to release the streams of dropped handles. -/
def dropCalls (s : Session) : SessionStep → List Call
  | handle name step => step.dropCalls s name
  | _ => []

theorem lockHeld_of_mem_dropCalls {s : Session} {step : SessionStep} :
    ∀ c ∈ step.dropCalls s, c.lockHeld = true := by
  intro c mem
  cases step with
  | handle name step => exact Handle.lockHeld_of_mem_dropCalls mem
  | _ => cases mem

end SessionStep

namespace Session

variable {s : Session}

/-- The traffic of a run. -/
def traffic (s : Session) : List SessionStep → Traffic
  | [] => {}
  | step :: rest => step.traffic s + (s.step step).2.traffic rest

theorem worksThenDrops_step (held : s.world.lock.locked = true) (step : SessionStep) :
    WorksThenDrops (step.traffic s) (step.dropCalls s) s.world (s.step step).2.world := by
  have quiet : ∀ {w}, s.world.Quiet w → WorksThenDrops {} [] s.world w := fun quiet =>
    ⟨_, .of_quiet quiet, rfl, rfl⟩
  cases step with
  | handle name step => exact worksThenDrops_handleAnswer held name step
  | table step => exact quiet (s.world.quiet_tableStep s.rawNames step)
  | space step => exact quiet (s.world.quiet_spaceStep step)
  | raw name step =>
    obtain ⟨-, env, same⟩ := s.rawStep_keeps name step
    refine quiet ?_
    show s.world.Quiet (s.rawStep name step).2.world
    rw [same]
    exact ⟨rfl, rfl⟩
  | calls =>
    refine quiet ?_
    simp only [step, showCalls]
    split <;> exact ⟨rfl, rfl⟩
  | heap | windows | isLocked | pooled | describeHost | describeGuard | memory | file | allocator =>
    exact quiet ⟨rfl, rfl⟩

/-- **A run** holds the lock in the end, and its windows are its calls without the lock and the borrowed streams
that were let go. -/
theorem run_works (held : s.world.lock.locked = true) (steps : List SessionStep) :
    (s.run steps).2.world.lock.locked = true ∧
      (s.run steps).2.world.lock.windows = s.world.lock.windows + (s.traffic steps).windows ∧
      ∃ made, (s.run steps).2.world.calls = made ++ s.world.calls ∧
        (s.traffic steps).windows = made.countP (!·.lockHeld) + (s.traffic steps).detached := by
  induction steps generalizing s with
  | nil => exact ⟨held, rfl, [], rfl, rfl⟩
  | cons step rest ih =>
    obtain ⟨v, works, lock, dropped⟩ := worksThenDrops_step held step
    obtain ⟨worked, calls, free, count⟩ := works.calls
    have windows := works.windows
    rw [← lock] at windows
    obtain ⟨later, sum, made, rest_calls, rest_count⟩ := ih (s := (s.step step).2) (lock ▸ works.locked held)
    refine ⟨later, ?_, made ++ (step.dropCalls s ++ worked), ?_, ?_⟩
    · show ((s.step step).2.run rest).2.world.lock.windows = _
      rw [sum, windows, traffic, Traffic.windows_add, Nat.add_assoc]
    · show ((s.step step).2.run rest).2.world.calls = _
      rw [rest_calls, dropped, calls, List.append_assoc, List.append_assoc]
    · have none_free : (step.dropCalls s).countP (!·.lockHeld) = 0 := by
        refine List.countP_eq_zero.2 fun c mem => ?_
        simp [SessionStep.lockHeld_of_mem_dropCalls c mem]
      have all_free : worked.countP (!·.lockHeld) = worked.length := by
        refine List.countP_eq_length.2 fun c mem => ?_
        simp [free c mem]
      simp only [traffic, List.countP_append, none_free, all_free, Traffic.windows_add, Traffic.detached_add]
      omega

/-- The final drops open no window either. -/
theorem dropAll_quietly (held : s.world.lock.locked = true) :
    s.dropAll.world.lock = s.world.lock ∧
      ∃ drops, s.dropAll.world.calls = drops ++ s.world.calls ∧ ∀ c ∈ drops, c.lockHeld = true := by
  unfold dropAll
  generalize s.names = names
  induction names generalizing s with
  | nil => exact ⟨rfl, [], rfl, by simp⟩
  | cons name rest ih =>
    obtain ⟨lock, calls⟩ := dropHandle_quietly held name
    obtain ⟨lock', drops, calls', held'⟩ := ih (s := s.dropHandle name) (lock ▸ held)
    refine ⟨lock'.trans lock, drops ++ (s.handles.get? name).elim [] Handle.dropCalls, ?_, ?_⟩
    · rw [List.foldl_cons, calls', calls, List.append_assoc]
    · intro c mem
      rcases List.mem_append.1 mem with mem | mem
      · exact held' c mem
      · exact Handle.lockHeld_of_mem_dropCalls mem

/-- **Calls go with windows.** At every point of a session the lock is held. A step makes its calls with the lock free
and opens as many windows as `SessionStep.traffic` says, one for each call and one for each borrowed stream that
it lets go; then it drops a handle, if it does, and the call for that is made with the lock held and without a
window. Over the whole run the windows are the calls made with the lock free and the borrowed streams that were let go,
and the drops that end the session add none. -/
theorem windows_of_run (world : World) (showsCalls : Bool) (history : List SessionStep) :
    let opened := start world showsCalls
    let s := (opened.run history).2
    s.world.lock.locked = true ∧
      (∀ step : SessionStep,
        ∃ worked, (s.step step).2.world.calls = step.dropCalls s ++ worked ++ s.world.calls ∧
          (∀ c ∈ worked, c.lockHeld = false) ∧ (∀ c ∈ step.dropCalls s, c.lockHeld = true) ∧
          (step.traffic s).windows = worked.length + (step.traffic s).detached ∧
          (s.step step).2.world.lock.windows = s.world.lock.windows + (step.traffic s).windows ∧
          (s.step step).2.world.lock.locked = true) ∧
      s.world.lock.windows = world.lock.windows + (opened.traffic history).windows ∧
      (∃ made, s.world.calls = made ++ world.calls ∧
        (opened.traffic history).windows = made.countP (!·.lockHeld) + (opened.traffic history).detached) ∧
      s.dropAll.world.lock = s.world.lock ∧
      ∃ drops, s.dropAll.world.calls = drops ++ s.world.calls ∧ ∀ c ∈ drops, c.lockHeld = true := by
  intro opened s
  obtain ⟨held, windows, total⟩ := run_works (s := opened) rfl history
  refine ⟨held, fun step => ?_, windows, total, dropAll_quietly held⟩
  obtain ⟨v, works, lock, dropped⟩ := worksThenDrops_step held step
  obtain ⟨worked, calls, free, count⟩ := works.calls
  refine ⟨worked, ?_, free, SessionStep.lockHeld_of_mem_dropCalls, count.symm, ?_, ?_⟩
  · rw [dropped, calls, List.append_assoc]
  · rw [lock, works.windows]
  · rw [lock]
    exact works.locked held

/-- Attaching a handle and closing it again takes a window and no call. -/
example : (start {} true).traffic [.handle "h" .new, .handle "h" (.attach .first), .handle "h" .close] =
    { windows := 1, detached := 1 } := by rfl

end Session
end ScriptStreams
