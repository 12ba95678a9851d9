import ScriptStreams.AddressSpace
import ScriptStreams.Config
import ScriptStreams.Lock
import ScriptStreams.Scratch
import ScriptStreams.Table
/-!
# The world of a handle

Everything a handle works on: the surroundings, the stream table, the address space, the runtime
lock, the scratch pool, the log, and a record of the primitives called and of whether the lock was
held then. The primitives of this module never touch the lock; `window` frees it around a call,
and `native` records one.
-/
namespace ScriptStreams

/-- The calls that a handle makes to the world around it: the operations of `StreamService`, `MemoryAdapter`,
`RawHandleAdapter` and `AddressSpaceLoader`. -/
inductive Primitive where
  | openByPath | closeCreated | teardownAdapted | seek | tell | size
  | readBytes | readLine | readCString | readByte | readSwapped
  | createMemoryStream | adaptRawHandle | loadRange
  deriving DecidableEq

structure Call where
  primitive : Primitive
  lockHeld : Bool
  deriving DecidableEq

namespace Primitive

def name : Primitive → String
  | openByPath => "open_by_path"
  | closeCreated => "close_created"
  | teardownAdapted => "teardown_adapted"
  | seek => "seek"
  | tell => "tell"
  | size => "size"
  | readBytes => "read_bytes"
  | readLine => "read_line"
  | readCString => "read_cstring"
  | readByte => "read_byte"
  | readSwapped => "read_swapped"
  | createMemoryStream => "create_memory_stream"
  | adaptRawHandle => "adapt_raw_handle"
  | loadRange => "load_range"

/-- Whether the call works on a stream or its release, rather than on memory, shared open files or
the loader. -/
def isService : Primitive → Bool
  | createMemoryStream | adaptRawHandle | loadRange => false
  | _ => true

end Primitive

/-- How the world is set up. -/
structure Host where
  config : Config := {}
  /-- Whether process memory can be read. -/
  hasMemory : Bool := true
  /-- A loader that loads nothing and always answers this, in place of the address space. -/
  fixedLoader : Option Int := none

structure World where
  host : Host := {}
  env : Environment := {}
  table : Table := {}
  space : AddressSpace := []
  lock : RuntimeLock := {}
  pool : Scratch.Pool := {}
  allocator : Allocator := .ample
  /-- Logged events, the newest first. -/
  log : List Event := []
  /-- Calls made by handles, the newest first. -/
  calls : List Call := []

namespace World

def note (w : World) (e : Event) : World := { w with log := e :: w.log }

def noteAll (w : World) (e : Option Event) : World :=
  match e with
  | some e => w.note e
  | none => w

/-- Make a value under the lock. -/
def make (w : World) (literal : Literal) : Value × World :=
  let (value, heap) := w.lock.heap.make literal
  (value, { w with lock := { w.lock with heap := heap } })

def makeAll (w : World) : List Literal → List Value × World
  | [] => ([], w)
  | l :: rest =>
    let (value, w) := w.make l
    let (values, w) := w.makeAll rest
    (value :: values, w)

/-! ## Streams

The operations of the `StreamService` on a stream that is registered. -/

/-- Let `f` work on the stream behind a reference, if there is one (`StreamTable::with_stream`). -/
def withStream {α : Type} (w : World) (r : StreamRef)
    (f : Source × Environment → α × Source × Environment) : Option α × World :=
  match w.table.entry? r with
  | none => (none, w)
  | some e =>
    let (a, source, env) := f (e.source, w.env)
    (some a, { w with env := env, table := w.table.update r source })

def seek (r : StreamRef) (offset : Int) (whence : Whence) (w : World) : Int × World :=
  let (p, w) := w.withStream r (Source.seek offset whence)
  (p.getD (-1), w)

def tell (r : StreamRef) (w : World) : Int × World :=
  let (p, w) := w.withStream r Source.device.tell
  (p.getD (-1), w)

def size (r : StreamRef) (w : World) : Int :=
  match w.table.entry? r with
  | some e => Source.size (e.source, w.env)
  | none => -1

/-- Up to `n` bytes; a stream that is gone fails (`StreamService::read_bytes`). -/
def readBytes (r : StreamRef) (n : Nat) (w : World) : Transfer × World :=
  let (t, w) := w.withStream r (Source.read n)
  (t.getD ⟨-1, []⟩, w)

/-- A line for a buffer of `n` bytes: whether one was read and what goes to the buffer's front. -/
def readLine (r : StreamRef) (n : Nat) (w : World) : (Bool × Bytes) × World :=
  let (a, w) := w.withStream r (Source.device.readLine n)
  (a.getD (false, []), w)

/-- A string for a buffer of `n` bytes. A stream that is gone leaves an empty string. -/
def readCString (r : StreamRef) (pos : Int) (n : Nat) (w : World) : (Bool × Bytes) × World :=
  let (a, w) := w.withStream r (Source.device.readCString pos n)
  (a.getD (false, if n = 0 then [] else [0]), w)

def readByte (r : StreamRef) (w : World) : Option UInt8 × World :=
  let (a, w) := w.withStream r Source.device.nextByte
  (a.getD none, w)

def readSwapped (r : StreamRef) (bigEndian : Bool) (n : Nat) (w : World) : Transfer × World :=
  let (t, w) := w.withStream r (Source.device.readSwapped bigEndian n)
  (t.getD ⟨-1, []⟩, w)

/-! ### Into a buffer -/

/-- The count and the buffer after a read. -/
def readBytesInto (r : StreamRef) (buffer : Bytes) (w : World) : (Int × Bytes) × World :=
  let (t, w) := w.readBytes r buffer.length
  ((t.count, Bytes.overlay buffer t.bytes), w)

def readLineInto (r : StreamRef) (buffer : Bytes) (w : World) : (Bool × Bytes) × World :=
  let ((ok, placed), w) := w.readLine r buffer.length
  ((ok, Bytes.overlay buffer placed), w)

def readCStringInto (r : StreamRef) (pos : Int) (buffer : Bytes) (w : World) : (Bool × Bytes) × World :=
  let ((ok, placed), w) := w.readCString r pos buffer.length
  ((ok, Bytes.overlay buffer placed), w)

def readSwappedInto (r : StreamRef) (bigEndian : Bool) (buffer : Bytes) (w : World) : (Int × Bytes) × World :=
  let (t, w) := w.readSwapped r bigEndian buffer.length
  ((t.count, Bytes.overlay buffer t.bytes), w)

/-- The stream behind a reference as a device over the whole world. -/
def device (r : StreamRef) : Device World where
  seek offset whence w := w.seek r offset whence
  size w := w.size r
  read n w := w.readBytes r n

/-- Current position without moving anything, or -1. -/
def position (w : World) (r : StreamRef) : Int := (w.tell r).1

/-! ## Registration and release -/

def register (w : World) (origin : StreamOrigin) (source : Source) : StreamRef × World :=
  let (r, table) := w.table.register origin source
  (r, { w with table := table }.note .streamRegistered)

/-- Open a file by path, a remote one below the remote root (`StreamService::open_by_path`). -/
def openByPath (path : String) (remote : Bool) (w : World) : Option StreamRef × World :=
  match if remote then w.host.config.resolveRemote path else some path with
  | none => (none, w.note .noRemoteRoot)
  | some path =>
    match w.env.files.fileAt path with
    | .error _ => (none, w.note .openFailed)
    | .ok id =>
      let (r, w) := w.register .created (.file id 0)
      (some r, w)

/-- A stream over a window of memory (`MemoryAdapter::create_memory_stream`). -/
def createMemoryStream (start size : Nat) (w : World) : Option StreamRef × World :=
  if !w.host.hasMemory then (none, w.note .noMemory)
  else
    match Window.create? w.env.image.reader start size with
    | none => (none, w)
    | some window =>
      let (r, w) := w.register .created (.window window)
      (some r, w)

/-- A stream over a shared open file; a directory is refused (`RawHandleAdapter::adapt_raw_handle`). -/
def adaptRawHandle (openFile : Nat) (w : World) : Option StreamRef × World :=
  match w.env.openFiles.get? openFile with
  | some (.directory _) | none => (none, w)
  | some _ =>
    let (r, w) := w.register .adapted (.shared openFile)
    (some r, w)

/-- Release a stream of the expected origin, and log what came of it (`close_created` and `teardown_adapted`). -/
def release (expected : StreamOrigin) (r : StreamRef) (w : World) : World :=
  let (outcome, table) := w.table.release expected r
  { w with table := table }.note <| match outcome with
    | .wrongOrigin => .wrongOrigin
    | .unknown => .unknownStream
    | .released => match expected with
      | .created => .streamClosed
      | .adapted => .adaptationTornDown

/-! ## The address space -/

/-- Load a range of the address space from a stream. -/
def loadSpace (r : StreamRef) (filePos : Int) (start stop : Nat) (patchable : Bool) (w : World) : Int × World :=
  let (outcome, space, w) := AddressSpace.load w.allocator (device r) w.space filePos start stop patchable w
  (outcome.status, { w with space := space }.noteAll outcome.event?)

/-- What the host's loader answers (`AddressSpaceLoader::load_range`). -/
def loadRange (r : StreamRef) (filePos : Int) (start stop : Nat) (patchable : Bool) (w : World) : Int × World :=
  match w.host.fixedLoader with
  | some status => (status, w)
  | none => w.loadSpace r filePos start stop patchable

/-! ## Calls and windows -/

/-- Record a call to a primitive and make it. -/
def native {α : Type} (w : World) (p : Primitive) (f : World → α × World) : α × World :=
  f { w with calls := ⟨p, w.lock.locked⟩ :: w.calls }

/-- Free the lock, run `f`, and take the lock back (`RuntimeGuard::allow_threads`). -/
def window {α : Type} (w : World) (f : World → α × World) : α × World :=
  let (a, w) := f ({ w with lock := w.lock.openWindow }.note .windowOpened)
  (a, { w with lock := w.lock.acquire })

/-- Call a primitive in a window. -/
def call {α : Type} (w : World) (p : Primitive) (f : World → α × World) : α × World :=
  w.window fun w => w.native p f

/-! ## Texts -/

def describeHost (w : World) : String :=
  "Host \x7b lock: " ++ w.lock.describe ++ ", config: " ++ w.host.config.describe ++ ", .. \x7d"

def describeTable (w : World) : String :=
  "StreamTable \x7b config: " ++ w.host.config.describe ++ ", stats: " ++ w.table.stats.describe ++ " \x7d"

end World
end ScriptStreams
