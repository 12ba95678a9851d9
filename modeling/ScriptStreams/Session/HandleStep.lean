import ScriptStreams.Session.Basic
/-!
# Steps on handles

What a session can do with a handle. The steps that leave the handle as it is (`ReadStep`) also
run on a view, a borrowing copy that ends with its steps.
-/
namespace ScriptStreams

inductive ReadStep where
  | seek (offset : Int) (whence : Whence)
  | tell
  | size
  | read (n : Nat)
  | readLine (n : Nat)
  | readCString (n : Nat) (pos : Option Int)
  | readSwapped (n : Nat) (bigEndian : Bool)
  | readByte
  | copyRange (filePos : Int) (start stop : Nat) (patchable : Bool)
  | toCapsule
  | info
  | describe
  | describeView

inductive HandleStep where
  | new
  | fromStream (r : StreamRef)
  | fromCapsule (literal : Literal)
  /-- Adapt the shared open file of a name. -/
  | fromRaw (raw : String)
  | openPath (path : String) (remote : Bool)
  | openMemory (start size : Nat)
  | attach (r : StreamRef)
  | close
  | drop
  /-- Keep a copy under another name. -/
  | copy (target : String)
  | read (step : ReadStep)
  | view (steps : List ReadStep)
  | call (method : String) (args : List Literal)

namespace Answer

def ofNumber : Except StreamError Int × World → Answer × World
  | (.ok n, w) => (.number n, w)
  | (.error e, w) => (.failed e, w)

def ofData : Except StreamError (Option Bytes) × World → Answer × World
  | (.ok (some bs), w) => (.data bs, w)
  | (.ok none, w) => (.nothing, w)
  | (.error e, w) => (.failed e, w)

def ofByte : Except StreamError (Option UInt8) × World → Answer × World
  | (.ok (some b), w) => (.number b.toNat, w)
  | (.ok none, w) => (.nothing, w)
  | (.error e, w) => (.failed e, w)

def ofOpen : Except StreamError Unit → Answer
  | .ok () => .opened
  | .error e => .failed e

def ofCall : Except ScriptError Value → Answer
  | .ok v => .value v
  | .error e => .refused e

end Answer

namespace ReadStep

def perform (h : Handle) (w : World) : ReadStep → Answer × World
  | seek offset whence => Answer.ofNumber (h.seek offset whence w)
  | tell => Answer.ofNumber (h.tell w)
  | size => Answer.ofNumber (h.size w)
  | read n => Answer.ofData (h.read n w)
  | readLine n => Answer.ofData (h.readLine n w)
  | readCString n pos => Answer.ofData (h.readCString n pos w)
  | readSwapped n bigEndian => Answer.ofData (h.readSwapped n bigEndian w)
  | readByte => Answer.ofByte (h.readByte w)
  | copyRange filePos start stop patchable => Answer.ofNumber (h.copyRange filePos start stop patchable w)
  | toCapsule =>
    match h.toCapsule w with
    | (some v, w) => (.value v, w)
    | (none, w) => (.nothing, w)
  | info => (.info ⟨h.isOpen, h.name, h.ownership, w.host.config.maxScratch⟩, w)
  | describe => (.text h.describe, w)
  | describeView => (.text h.describeView, w)

def performAll (h : Handle) (w : World) : List ReadStep → List Answer × World
  | [] => ([], w)
  | step :: rest =>
    let (answer, w) := step.perform h w
    let (answers, w) := performAll h w rest
    (answer :: answers, w)

end ReadStep

namespace Session

/-- Keep a handle that could be made; the answer tells whether it could. -/
def storeIfMade (s : Session) (name : String) (made : Option Handle) : Answer × Session :=
  match made with
  | some h => (.flag true, s.store name h)
  | none => (.flag false, s)

/-- Use the handle of a name and put it back. -/
def onHandle (s : Session) (name : String) (f : Handle → World → Answer × Handle × World) : Answer × Session :=
  match s.handles.get? name with
  | some h =>
    let (answer, h, w) := f h s.world
    (answer, s.update name h w)
  | none => (.unknown, s)

def handleAnswer (s : Session) (name : String) : HandleStep → Answer × Session
  | .new => (.nothing, s.store name {})
  | .fromStream r => (.nothing, s.store name (.borrow r))
  | .fromCapsule literal =>
    let (v, w) := s.world.make literal
    { s with world := w }.storeIfMade name (Handle.ofCapsule? v)
  | .fromRaw raw =>
    match s.rawNames.get? raw with
    | some openFile =>
      let (made, w) := Handle.ofRaw openFile s.world
      { s with world := w }.storeIfMade name made
    | none => (.unknown, s)
  | .openPath path remote => s.onHandle name fun h w =>
    let (result, h, w) := h.openPath path remote w
    (.ofOpen result, h, w)
  | .openMemory start size => s.onHandle name fun h w =>
    let (result, h, w) := h.openMemory start size w
    (.ofOpen result, h, w)
  | .attach r => s.onHandle name fun h w => (.nothing, h.attach r w)
  | .close => s.onHandle name fun h w => (.nothing, h.close w)
  | .drop => (.flag (s.handles.contains name), s.dropHandle name)
  | .copy target =>
    match s.handles.get? name with
    | some h => (.status (.ofHandle h.copy s.world), s.store target h.copy)
    | none => (.unknown, s)
  | .read step => s.onHandle name fun h w =>
    let (answer, w) := step.perform h w
    (answer, h, w)
  | .view steps => s.onHandle name fun h w =>
    let (answers, w) := ReadStep.performAll h.copy w steps
    (.list answers, h, w)
  | .call method args => s.onHandle name fun h w =>
    let (args, w) := w.makeAll args
    let (result, h, w) := h.callMethod method args w
    (.ofCall result, h, w)

/-- A step on the handle of a name, and the status of that handle after it. -/
def handleStep (s : Session) (name : String) (step : HandleStep) : Answer × Session :=
  let (answer, s) := s.handleAnswer name step
  (.handle answer (s.status? name), s)

end Session
end ScriptStreams
