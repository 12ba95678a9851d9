import ScriptStreams.Method
/-!
# Sessions

A session is a world with handles and shared open files under names, run with the runtime lock
held. Storing a handle under a name in use drops the older handle (`Session.store`), so every
handle that was ever made is either named or dropped.
-/
namespace ScriptStreams

structure Session where
  world : World := {}
  handles : Keyed String Handle := []
  /-- The shared open file that each name holds. -/
  rawNames : Keyed String Nat := []
  /-- Whether the calls of handles are shown. -/
  showsCalls : Bool := true
  /-- How many of the recorded calls were shown before. -/
  shownCalls : Nat := 0

/-- What can be seen of a handle without calling anything. -/
structure HandleStatus where
  ownership : Ownership
  name : String
  /-- The stream's position, -1 for a stream that is gone. -/
  position : Option Int

structure HandleInfo where
  isOpen : Bool
  name : String
  ownership : Ownership
  maxScratch : Nat

/-- What a step of a session answers. -/
inductive Answer where
  | nothing
  | flag (b : Bool)
  | number (n : Int)
  | text (s : String)
  | data (bs : Bytes)
  | value (v : Value)
  | opened
  | failed (e : StreamError)
  | refused (e : ScriptError)
  | status (st : HandleStatus)
  | info (i : HandleInfo)
  /-- An answer about a handle, with its status afterwards. -/
  | handle (answer : Answer) (st : Option HandleStatus)
  | list (answers : List Answer)
  /-- A byte count or failure code and the whole buffer. -/
  | transfer (count : Int) (buffer : Bytes)
  /-- Whether a line or string was read, and the whole buffer. -/
  | found (ok : Bool) (buffer : Bytes)
  | heap (h : HeapStats)
  | stats (s : TableStats)
  | calls (calls : List Call)
  | spans (spans : List (Nat × Nat))
  | loaded (status : Int) (spans : List (Nat × Nat))
  | window (start size : Nat) (answers : List Answer) (text : String)
  | file (path : String) (size reached : Int) (count : Int) (buffer : Bytes) (position : Int)
  | unopened (fault : OpenFault)
  /-- Whether two names hold the same shared open file, and its holders. -/
  | shared (same : Bool) (holders : Nat)
  /-- There is nothing of the name that the step is about. -/
  | unknown

namespace HandleStatus

def ofHandle (h : Handle) (w : World) : HandleStatus :=
  ⟨h.ownership, h.name, h.ref?.map w.position⟩

end HandleStatus

namespace Session

/-- A session in `world`, which takes the runtime lock. -/
def start (world : World) (showsCalls : Bool) : Session :=
  { world := { world with lock := world.lock.acquire }, showsCalls }

def status? (s : Session) (name : String) : Option HandleStatus :=
  (s.handles.get? name).map fun h => .ofHandle h s.world

/-- Drop the handle of a name, if there is one. -/
def dropHandle (s : Session) (name : String) : Session :=
  match s.handles.get? name with
  | some h => { s with world := h.drop s.world, handles := s.handles.erase name }
  | none => s

/-- Keep a new handle under a name; the handle that had the name is dropped. -/
def store (s : Session) (name : String) (h : Handle) : Session :=
  let s := s.dropHandle name
  { s with handles := s.handles.set name h }

/-- Put a handle back after it was used. -/
def update (s : Session) (name : String) (h : Handle) (w : World) : Session :=
  { s with world := w, handles := s.handles.set name h }

/-- The names of the handles in byte order. -/
def names (s : Session) : List String := s.handles.keys.mergeSort fun a b => decide (a ≤ b)

def dropAll (s : Session) : Session := s.names.foldl dropHandle s

end Session
end ScriptStreams
