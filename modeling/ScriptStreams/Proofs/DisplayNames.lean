import ScriptStreams.Proofs.Opening
import ScriptStreams.Proofs.Paths
/-!
# Display names

What a handle shows as its name is told by how it came to hold its stream (`Provenance`), and that is told by the steps of a
session and their answers alone (`HandleStep.gives`). Every step keeps the handle and its provenance together
(`Session.Known.handleAnswer`), so every run does, and a handle shows no name exactly while it holds nothing: no path that
opens is empty, for one.
-/
namespace ScriptStreams

/-- How a handle came to hold what it holds. -/
inductive Provenance where
  | none
  /-- It opened a path. -/
  | path (path : String)
  /-- It opened memory. -/
  | memory
  /-- It was made from a shared open file. -/
  | raw (openFile : Nat)
  /-- It was attached to a stream, or made from its reference or a capsule. -/
  | reference (r : StreamRef)
  /-- It was copied from a handle that showed this name then. -/
  | copied (name : String)
  deriving DecidableEq

/-- What a handle of this provenance holds and shows. -/
inductive Provenance.Describes : Provenance → Handle → Prop where
  | none : Describes .none {}
  | path {path : String} (r : StreamRef) (named : path ≠ "") : Describes (.path path) ⟨.owned r, path⟩
  | memory (r : StreamRef) : Describes .memory ⟨.owned r, Handle.memoryName⟩
  | raw (openFile : Nat) (r : StreamRef) : Describes (.raw openFile) ⟨.adapted r, Handle.rawName openFile⟩
  | reference (r : StreamRef) : Describes (.reference r) ⟨.borrowed r, Handle.borrowedName r⟩
  | copied {name : String} (r : StreamRef) (named : name ≠ "") : Describes (.copied name) ⟨.borrowed r, name⟩

/-! ## Paths that open -/

namespace Config

/-- Nothing below a root is no file. -/
theorem fileAt_joinPath_empty (fs : Files) (root : String) (id : FileId) : fs.fileAt (joinPath root "") ≠ .ok id := by
  unfold joinPath
  rw [if_neg (by decide)]
  split
  · next ends =>
    rw [String.append_empty]
    rcases ends with rfl | last
    · exact fs.fileAt_empty id
    · obtain ⟨front, characters⟩ := List.getLast?_eq_some_iff.1 last
      obtain rfl : root = String.ofList front ++ "/" := by
        rw [← String.toList_inj, String.toList_append, String.toList_ofList, characters]
        rfl
      exact fs.fileAt_separator _ id
  · rw [String.append_empty]
    exact fs.fileAt_separator root id

end Config

/-- **The empty path** cannot be opened, nor can it remotely. -/
theorem World.openByPath_empty (remote : Bool) (w : World) : (w.openByPath "" remote).1 = none := by
  have no_file : ∀ p, (if remote then w.host.config.resolveRemote "" else some "") = some p →
      ∀ id, w.env.files.fileAt p ≠ .ok id := by
    intro p resolved id
    cases remote with
    | false =>
      obtain rfl : "" = p := by simpa using resolved
      exact w.env.files.fileAt_empty id
    | true =>
      obtain ⟨root, -, rfl⟩ : ∃ root, w.host.config.remoteRoot = some root ∧ Config.joinPath root "" = p :=
        Option.map_eq_some_iff.1 resolved
      exact Config.fileAt_joinPath_empty w.env.files root id
  unfold openByPath
  split
  · rfl
  · next p resolved =>
    split
    · rfl
    · next id found => exact absurd found (no_file p resolved id)

namespace Handle

variable {h : Handle} {w : World}

theorem ne_empty_of_openPath {path : String} {remote : Bool} (opened : (h.openPath path remote w).1 = .ok ()) : path ≠ "" := by
  rintro rfl
  have none_made : ((h.close w).2.call .openByPath (World.openByPath "" remote)).1 = none := by
    rw [World.call_eq]
    exact World.openByPath_empty remote _
  simp only [openPath] at opened
  split at opened
  · cases opened
  · next made =>
    rw [made] at none_made
    cases none_made

theorem borrowedName_ne_empty (r : StreamRef) : borrowedName r ≠ "" := by
  simp [borrowedName]

theorem rawName_ne_empty (openFile : Nat) : rawName openFile ≠ "" := by
  simp [rawName]

end Handle

/-! ## Handles -/

namespace Provenance

variable {p : Provenance} {h : Handle} {w : World}

/-- **A name is shown** exactly by a handle that holds a stream. -/
theorem Describes.name_eq_empty_iff (known : p.Describes h) : h.name = "" ↔ h.ownership = .empty := by
  cases known with
  | none => simp
  | path r named => simp [named]
  | memory r => simp [Handle.memoryName]
  | raw openFile r => simp [Handle.rawName_ne_empty]
  | reference r => simp [Handle.borrowedName_ne_empty]
  | copied r named => simp [named]

theorem Describes.proper (known : p.Describes h) : h.Proper := known.name_eq_empty_iff.2

/-- The provenance of a copy. -/
def ofCopy (h : Handle) : Provenance := if h.isOpen then .copied h.name else .none

theorem Describes.copy (known : p.Describes h) : (ofCopy h).Describes h.copy := by
  have named : h.isOpen = true → h.name ≠ "" := fun holds unnamed => by
    simp [Handle.isOpen, known.name_eq_empty_iff.1 unnamed] at holds
  obtain ⟨own, name⟩ := h
  cases own with
  | empty =>
    obtain rfl : name = "" := known.name_eq_empty_iff.2 rfl
    exact .none
  | owned r | borrowed r | adapted r => exact .copied r (named rfl)

/-- What a handle has opened by path, or nothing if that failed. -/
def ofOpened (path : String) (opened : Bool) : Provenance := if opened then .path path else .none

theorem Describes.openPath (known : p.Describes h) (path : String) (remote : Bool) :
    (ofOpened path (h.openPath path remote w).1.isOk).Describes (h.openPath path remote w).2.1 := by
  have closed : (h.close w).1 = {} := known.proper.close
  have named : (h.openPath path remote w).1 = .ok () → path ≠ "" := Handle.ne_empty_of_openPath
  simp only [Handle.openPath] at named ⊢
  split
  · rw [closed]
    exact .none
  · next r w' made =>
    rw [made] at named
    exact .path r (named rfl)

theorem Describes.openMemory (known : p.Describes h) (start size : Nat) :
    (if (h.openMemory start size w).1.isOk then .memory else p : Provenance).Describes (h.openMemory start size w).2.1 := by
  unfold Handle.openMemory
  split
  · exact known
  · exact .memory _

/-- What a request that was carried out with this value makes of the provenance; none if it leaves it. -/
def ofRequest : Request → Value → Option Provenance
  | .open file _, .bool opened => some (ofOpened file opened)
  | .openMemory _ _, .bool true => some .memory
  | .attach r, _ => some (.reference r)
  | .close, _ => some .none
  | _, _ => Option.none

/-- A request that has nothing to say about the provenance. -/
theorem Describes.of_silent (known : p.Describes h) {q : Request} (silent : ∀ v, ofRequest q v = Option.none)
    (result : Except StreamError Value) : ((result.toOption.bind (ofRequest q)).getD p).Describes h := by
  have nothing : result.toOption.bind (ofRequest q) = Option.none := by
    rw [Option.bind_eq_none_iff]
    exact fun v _ => silent v
  rw [nothing]
  exact known

/-- **A request** leaves a handle that is told by what the request gave. -/
theorem Describes.perform (known : p.Describes h) (q : Request) :
    (((h.perform q w).1.toOption.bind (ofRequest q)).getD p).Describes (h.perform q w).2.1 := by
  cases q with
  | «open» path remote =>
    have opened := known.openPath (w := w) path remote
    simp only [Handle.perform]
    generalize h.openPath path remote w = x at opened
    obtain ⟨_ | _, h', w'⟩ := x <;> exact opened
  | openMemory start size =>
    have opened := known.openMemory (w := w) start size
    simp only [Handle.perform]
    generalize h.openMemory start size w = x at opened
    obtain ⟨_ | _, h', w'⟩ := x <;> exact opened
  | attach r => exact .reference r
  | close =>
    show Provenance.none.Describes (h.close w).1
    rw [known.proper.close]
    exact .none
  | seek | tell | size | copyRange =>
    rw [Handle.perform, Handle.intResult_handle]
    exact known.of_silent (fun _ => rfl) _
  | read | readLine | readCString | readSwapped =>
    rw [Handle.perform, Handle.dataResult_handle]
    exact known.of_silent (fun _ => rfl) _
  | readByte =>
    simp only [Handle.perform]
    split <;> exact known.of_silent (fun _ => rfl) _
  | isOpen => exact known.of_silent (fun _ => rfl) _
  | name => exact known.of_silent (fun _ => rfl) _

/-- What a call of a method with this result makes of the provenance. -/
def ofCall (method : String) (args : List Value) (result : Except ScriptError Value) : Option Provenance :=
  match Request.ofCall method args with
  | .ok q => result.toOption.bind (ofRequest q)
  | .error _ => Option.none

theorem Describes.callMethod (known : p.Describes h) (method : String) (args : List Value) :
    ((ofCall method args (h.callMethod method args w).1).getD p).Describes (h.callMethod method args w).2.1 := by
  unfold ofCall Handle.callMethod
  cases Request.ofCall method args with
  | error fault => exact known
  | ok q =>
    have performed := known.perform (w := w) q
    dsimp only
    split <;> next carried => rw [carried] at performed; exact performed

/-- The provenances with another one for the handle of a name, if there is another one. -/
def noted (known : Keyed String Provenance) (name : String) : Option Provenance → Keyed String Provenance
  | some p => known.set name p
  | Option.none => known

end Provenance

/-! ## Sessions -/

namespace HandleStep

/-- What a step that answers this makes of the provenance of the handle of its name; none if it leaves it. -/
def gives (s : Session) (answer : Answer) : HandleStep → Option Provenance
  | .new => some .none
  | .fromStream r => some (.reference r)
  | .fromCapsule literal => match answer, literal with
    | .flag true, .capsule c => some (.reference ⟨c.address, c.address_pos⟩)
    | _, _ => none
  | .fromRaw raw => match answer with
    | .flag true => (s.rawNames.get? raw).map .raw
    | _ => none
  | .openPath path _ => match answer with
    | .opened => some (.path path)
    | .failed _ => some .none
    | _ => none
  | .openMemory _ _ => match answer with
    | .opened => some .memory
    | _ => none
  | .attach r => match answer with
    | .unknown => none
    | _ => some (.reference r)
  | .close => match answer with
    | .unknown => none
    | _ => some .none
  | .call method args => match answer with
    | .value v => Provenance.ofCall method (s.world.makeAll args).1 (.ok v)
    | _ => none
  | .drop | .copy _ | .read _ | .view _ => none

/-- The provenances of all handles after a step on the handle of a name. -/
def provenances (s : Session) (name : String) (known : Keyed String Provenance) (step : HandleStep) :
    Keyed String Provenance :=
  match step with
  | .drop => known.erase name
  | .copy target => match s.handles.get? name with
    | some h => known.set target (.ofCopy h)
    | none => known
  | step => Provenance.noted known name (step.gives s (s.handleAnswer name step).1)

end HandleStep

def SessionStep.provenances (s : Session) (known : Keyed String Provenance) : SessionStep → Keyed String Provenance
  | .handle name step => step.provenances s name known
  | _ => known

namespace Session

variable {s : Session} {known : Keyed String Provenance}

/-- The provenances of all handles after a run. -/
def provenances (s : Session) (known : Keyed String Provenance) : List SessionStep → Keyed String Provenance
  | [] => known
  | step :: rest => (s.step step).2.provenances (step.provenances s known) rest

/-- The provenances tell the handles of the session. -/
def Known (s : Session) (known : Keyed String Provenance) : Prop :=
  ∀ name, Option.Rel Provenance.Describes (known.get? name) (s.handles.get? name)

theorem Known.of_found (told : s.Known known) {name : String} {h : Handle} (found : s.handles.get? name = some h) :
    ∃ p, known.get? name = some p ∧ p.Describes h := by
  have here := told name
  rw [found] at here
  generalize known.get? name = before at here
  cases here with
  | some describes => exact ⟨_, rfl, describes⟩

theorem Known.erase (told : s.Known known) (name other : String) :
    Option.Rel Provenance.Describes ((known.erase name).get? other) ((s.handles.erase name).get? other) := by
  rw [Keyed.get?_erase, Keyed.get?_erase]
  split
  · exact .none
  · exact told other

theorem Known.set (told : s.Known known) (name : String) {p : Provenance} {h : Handle} (describes : p.Describes h)
    (other : String) :
    Option.Rel Provenance.Describes ((known.set name p).get? other) ((s.handles.set name h).get? other) := by
  rw [Keyed.get?_set, Keyed.get?_set]
  split
  · exact .some describes
  · exact told other

theorem Known.dropHandle (told : s.Known known) (name : String) : (s.dropHandle name).Known (known.erase name) := by
  intro other
  unfold Session.dropHandle
  cases found : s.handles.get? name with
  | some h => exact told.erase name other
  | none =>
    by_cases same : name = other
    · subst same
      rw [Keyed.get?_erase_self, found]
      exact .none
    · rw [Keyed.get?_erase_ne _ same]
      exact told other

theorem Known.store (told : s.Known known) (name : String) {p : Provenance} {h : Handle} (describes : p.Describes h) :
    (s.store name h).Known (known.set name p) := by
  have stored := (told.dropHandle name).set name describes
  intro other
  have step := stored other
  rw [Keyed.get?_set] at step ⊢
  split
  · next same => rwa [if_pos same] at step
  · next differs => rwa [if_neg differs, Keyed.get?_erase_ne _ differs] at step

/-- Using a handle keeps its provenance right, if the operation tells what becomes of it. -/
theorem Known.onHandle (told : s.Known known) (name : String) {op : Handle → World → Answer × Handle × World}
    (gives : Answer → Option Provenance) (silent : gives .unknown = none)
    (kept : ∀ p h, p.Describes h → ((gives (op h s.world).1).getD p).Describes (op h s.world).2.1) :
    (s.onHandle name op).2.Known (Provenance.noted known name (gives (s.onHandle name op).1)) := by
  unfold Session.onHandle
  cases found : s.handles.get? name with
  | none =>
    show s.Known (Provenance.noted known name (gives .unknown))
    rw [silent]
    exact told
  | some h =>
    obtain ⟨p, before, describes⟩ := told.of_found found
    have after := kept p h describes
    show (s.update name (op h s.world).2.1 (op h s.world).2.2).Known (Provenance.noted known name (gives (op h s.world).1))
    cases given : gives (op h s.world).1 with
    | some p' =>
      rw [given] at after
      exact told.set name after
    | none =>
      rw [given] at after
      intro other
      have stored := told.set name after other
      rw [Keyed.get?_set] at stored
      split at stored
      · next same =>
        subst same
        show Option.Rel _ (known.get? name) _
        rw [before]
        exact stored
      · exact stored

theorem Known.storeIfMade (told : s.Known known) (name : String) {made : Option Handle} (gives : Answer → Option Provenance)
    (silent : gives (.flag false) = none)
    (stored : ∀ h, made = some h → ∃ p, gives (.flag true) = some p ∧ p.Describes h) :
    (s.storeIfMade name made).2.Known (Provenance.noted known name (gives (s.storeIfMade name made).1)) := by
  cases made with
  | none =>
    show s.Known (Provenance.noted known name (gives (.flag false)))
    rw [silent]
    exact told
  | some h =>
    obtain ⟨p, given, describes⟩ := stored h rfl
    show (s.store name h).Known (Provenance.noted known name (gives (.flag true)))
    rw [given]
    exact told.store name describes

/-- A handle that a capsule made is told by the capsule. -/
theorem gives_of_ofCapsule {literal : Literal} {w : World} {h : Handle}
    (made : Handle.ofCapsule? (w.make literal).1 = some h) :
    ∃ p, (HandleStep.fromCapsule literal).gives s (.flag true) = some p ∧ p.Describes h := by
  cases literal with
  | capsule c =>
    refine ⟨.reference ⟨c.address, c.address_pos⟩, rfl, ?_⟩
    change (if c.tag = Handle.capsuleTag then some (Handle.borrow ⟨c.address, c.address_pos⟩) else none) = some h at made
    split at made
    · obtain rfl := Option.some.inj made
      exact .reference _
    · cases made
  | none | bool | int | bytes | text => cases made

theorem describes_of_ofRaw {openFile : Nat} {w : World} {h : Handle} (made : (Handle.ofRaw openFile w).1 = some h) :
    (Provenance.raw openFile).Describes h := by
  unfold Handle.ofRaw at made
  split at made
  · cases made
  · obtain rfl := Option.some.inj made
    exact .raw openFile _

/-- **A step on a handle** keeps all handles and their provenances together. -/
theorem Known.handleAnswer (told : s.Known known) (name : String) (step : HandleStep) :
    (s.handleAnswer name step).2.Known (step.provenances s name known) := by
  cases step with
  | new => exact told.store name .none
  | fromStream r => exact told.store name (.reference r)
  | fromCapsule literal =>
    exact Known.storeIfMade (s := { s with world := (s.world.make literal).2 }) told name
      ((HandleStep.fromCapsule literal).gives s) (by cases literal <;> rfl) fun h => gives_of_ofCapsule
  | fromRaw raw =>
    simp only [HandleStep.provenances, Session.handleAnswer]
    cases known_raw : s.rawNames.get? raw with
    | none => exact told
    | some openFile =>
      refine Known.storeIfMade (s := { s with world := (Handle.ofRaw openFile s.world).2 }) told name
        ((HandleStep.fromRaw raw).gives s) rfl fun h made => ⟨.raw openFile, ?_, describes_of_ofRaw made⟩
      simp only [HandleStep.gives, known_raw, Option.map_some]
  | openPath path remote =>
    refine told.onHandle name ((HandleStep.openPath path remote).gives s) rfl fun p h describes => ?_
    have opened := describes.openPath (w := s.world) path remote
    generalize h.openPath path remote s.world = x at opened
    obtain ⟨_ | _, h', w'⟩ := x <;> exact opened
  | openMemory start size =>
    refine told.onHandle name ((HandleStep.openMemory start size).gives s) rfl fun p h describes => ?_
    have opened := describes.openMemory (w := s.world) start size
    generalize h.openMemory start size s.world = x at opened
    obtain ⟨_ | _, h', w'⟩ := x <;> exact opened
  | attach r =>
    refine told.onHandle name ((HandleStep.attach r).gives s) rfl fun p h _ => ?_
    exact .reference r
  | close =>
    refine told.onHandle name (HandleStep.close.gives s) rfl fun p h describes => ?_
    show Provenance.none.Describes (h.close s.world).1
    rw [describes.proper.close]
    exact .none
  | drop => exact told.dropHandle name
  | copy target =>
    simp only [HandleStep.provenances, Session.handleAnswer]
    cases found : s.handles.get? name with
    | none => exact told
    | some h =>
      obtain ⟨p, -, describes⟩ := told.of_found found
      exact told.store target describes.copy
  | read step =>
    refine told.onHandle name ((HandleStep.read step).gives s) rfl fun p h describes => ?_
    exact describes
  | view steps =>
    refine told.onHandle name ((HandleStep.view steps).gives s) rfl fun p h describes => ?_
    exact describes
  | call method args =>
    refine told.onHandle name ((HandleStep.call method args).gives s) rfl fun p h describes => ?_
    have called := describes.callMethod (w := (s.world.makeAll args).2) method (s.world.makeAll args).1
    show ((HandleStep.gives s (.ofCall (h.callMethod method (s.world.makeAll args).1 (s.world.makeAll args).2).1)
      (.call method args)).getD p).Describes (h.callMethod method (s.world.makeAll args).1 (s.world.makeAll args).2).2.1
    generalize h.callMethod method (s.world.makeAll args).1 (s.world.makeAll args).2 = x at called
    obtain ⟨e | v, h', w'⟩ := x
    · have silent : Provenance.ofCall method (s.world.makeAll args).1 (.error e) = none := by
        unfold Provenance.ofCall
        cases Request.ofCall method (s.world.makeAll args).1 <;> rfl
      rwa [silent] at called
    · exact called

theorem Known.step (told : s.Known known) (step : SessionStep) : (s.step step).2.Known (step.provenances s known) := by
  cases step with
  | handle name step => exact told.handleAnswer name step
  | raw name step =>
    have handles : (s.rawStep name step).2.handles = s.handles := (s.rawStep_keeps name step).1
    intro other
    show Option.Rel _ _ ((s.rawStep name step).2.handles.get? other)
    rw [handles]
    exact told other
  | calls =>
    simp only [Session.step, showCalls]
    split <;> exact told
  | _ => exact told

theorem Known.run (told : s.Known known) (steps : List SessionStep) : (s.run steps).2.Known (s.provenances known steps) := by
  induction steps generalizing s known with
  | nil => exact told
  | cons step rest ih => exact ih (told.step step)

/-- A copy keeps the name that it was made with when its source is closed. -/
example :
    let opened := start { env := { image := [⟨0, #[1, 2, 3, 4]⟩] } } true
    let steps : List SessionStep :=
      [.handle "h" .new, .handle "h" (.openMemory 0 4), .handle "h" (.copy "copy"), .handle "h" .close]
    ((opened.run steps).2.handles.get? "copy", (opened.provenances [] steps).get? "copy") =
      (some ⟨.borrowed .first, "<memory>"⟩, some (.copied "<memory>")) := by rfl

end Session
end ScriptStreams
