import ScriptStreams.World
/-!
# Stream handles

A handle holds at most one stream and remembers who releases it: an owned stream is closed, an
adapted one torn down, a borrowed one left alone. Opening closes what was held first, except over memory,
where the old stream stays until the new one exists. Every operation that reaches a stream does so
in a window of the runtime lock; only dropping a handle releases without one.
-/
namespace ScriptStreams

/-- Who releases the stream of a handle. -/
inductive Ownership where
  | empty
  | owned (r : StreamRef)
  | borrowed (r : StreamRef)
  | adapted (r : StreamRef)
  deriving DecidableEq

namespace Ownership

def ref? : Ownership → Option StreamRef
  | empty => none
  | owned r | borrowed r | adapted r => some r

/-- What a copy of the handle has: the same stream, never to release. -/
def aliased : Ownership → Ownership
  | empty => empty
  | owned r | borrowed r | adapted r => borrowed r

def kindName : Ownership → String
  | empty => "None"
  | owned _ => "Owned"
  | borrowed _ => "Borrowed"
  | adapted _ => "Adapted"

def describe : Ownership → String
  | empty => "Empty"
  | owned r => "Owned(" ++ r.describe ++ ")"
  | borrowed r => "Borrowed(" ++ r.describe ++ ")"
  | adapted r => "Adapted(" ++ r.describe ++ ")"

end Ownership

/-- Failure of a handle operation. Running out of data is none. -/
inductive StreamError where
  | openFailed (name : String)
  | memoryUnavailable (start size : Nat)
  | notOpened
  deriving DecidableEq

def StreamError.message : StreamError → String
  | openFailed name => "cannot open input '" ++ name ++ "'"
  | memoryUnavailable start size =>
    "cannot create a memory input at " ++ Text.hex start ++ " (size " ++ Text.hex size ++ ")"
  | notOpened => "I/O operation on unopened input"

/-- A handle on at most one stream (`LoaderInput`). -/
structure Handle where
  ownership : Ownership := .empty
  /-- What the handle shows as its file name. -/
  name : String := ""
  deriving DecidableEq

namespace Handle

/-- The tag of capsules that carry a stream reference. -/
def capsuleTag : String := "linput.stream"

/-- The name of inputs over memory. -/
def memoryName : String := "<memory>"

/-- Extra scratch bytes behind string and swapped reads. -/
def scratchGuard : Nat := 5

/-- Sizes of requests are below this bound. -/
def sizeLimit : Nat := UInt64.size

/-- The name of a stream that is owned elsewhere (`borrowed_name`). -/
def borrowedName (r : StreamRef) : String := "<stream " ++ r.display ++ ">"

/-- The tag of a shared open file, which stands for its address. -/
def rawName (openFile : Nat) : String := "<raw handle " ++ Text.hex ((1 <<< 47) - (1 <<< 32) + 64 * openFile) ++ ">"

def isOpen (h : Handle) : Bool := h.ownership ≠ .empty

def ref? (h : Handle) : Option StreamRef := h.ownership.ref?

/-- A handle that borrows `r` (`LoaderInput::from_stream`). -/
def borrow (r : StreamRef) : Handle := ⟨.borrowed r, borrowedName r⟩

/-- A handle that borrows the stream a capsule carries (`LoaderInput::from_capsule`). -/
def ofCapsule? (v : Value) : Option Handle :=
  match v with
  | .capsule c => if c.tag = capsuleTag then some (borrow ⟨c.address, c.address_pos⟩) else none
  | _ => none

/-- A handle with an adaptation of a shared open file (`LoaderInput::from_raw_handle`). -/
def ofRaw (openFile : Nat) (w : World) : Option Handle × World :=
  match w.call .adaptRawHandle (World.adaptRawHandle openFile) with
  | (none, w) => (none, w)
  | (some r, w) => (some ⟨.adapted r, rawName openFile⟩, w.note .rawHandleAdapted)

/-- A copy borrows the stream and keeps the name (`LoaderInput::clone`). -/
def copy (h : Handle) : Handle := ⟨h.ownership.aliased, h.name⟩

/-! ## Life cycle -/

/-- Release the stream as its ownership asks (`release`). -/
def releaseStream (o : Ownership) (w : World) : Unit × World :=
  match o with
  | .empty | .borrowed _ => ((), w)
  | .owned r => w.native .closeCreated fun w => ((), w.release .created r)
  | .adapted r => w.native .teardownAdapted fun w => ((), w.release .adapted r)

/-- Give the stream back and be empty (`LoaderInput::close`). -/
def close (h : Handle) (w : World) : Handle × World :=
  if h.isOpen then ({}, (w.window (releaseStream h.ownership)).2) else (h, w)

/-- Open a path, closing what was held first (`LoaderInput::open`). -/
def openPath (h : Handle) (path : String) (remote : Bool) (w : World) :
    Except StreamError Unit × Handle × World :=
  let (h, w) := h.close w
  match w.call .openByPath (World.openByPath path remote) with
  | (none, w) => (.error (.openFailed path), h, w)
  | (some r, w) => (.ok (), ⟨.owned r, path⟩, w.note .inputOpened)

/-- Open a window over memory, closing what was held once it exists (`LoaderInput::open_memory`). -/
def openMemory (h : Handle) (start size : Nat) (w : World) : Except StreamError Unit × Handle × World :=
  match w.call .createMemoryStream (World.createMemoryStream start size) with
  | (none, w) => (.error (.memoryUnavailable start size), h, w)
  | (some r, w) =>
    let (_, w) := h.close w
    (.ok (), ⟨.owned r, memoryName⟩, w.note .memoryInputOpened)

/-- Borrow a stream, closing what was held first (`LoaderInput::attach`). -/
def attach (h : Handle) (r : StreamRef) (w : World) : Handle × World :=
  let (_, w) := h.close w
  (borrow r, w)

/-- Give the handle up: its stream is released while the lock stays held (`LoaderInput::drop`). -/
def drop (h : Handle) (w : World) : World :=
  let w := match h.ownership with
    | .owned _ | .adapted _ => w.note .releasedOnDrop
    | .empty | .borrowed _ => w
  (releaseStream h.ownership w).2

/-! ## Positions

`LoaderInput::seek`, `LoaderInput::tell` and `LoaderInput::size`: one window around the stream service's operation of the
same name, an error if no stream is held. -/

def seek (h : Handle) (offset : Int) (whence : Whence) (w : World) : Except StreamError Int × World :=
  match h.ref? with
  | none => (.error .notOpened, w)
  | some r =>
    let (p, w) := w.call .seek (World.seek r offset whence)
    (.ok p, w)

def tell (h : Handle) (w : World) : Except StreamError Int × World :=
  match h.ref? with
  | none => (.error .notOpened, w)
  | some r =>
    let (p, w) := w.call .tell (World.tell r)
    (.ok p, w)

def size (h : Handle) (w : World) : Except StreamError Int × World :=
  match h.ref? with
  | none => (.error .notOpened, w)
  | some r =>
    let (n, w) := w.call .size fun w => (w.size r, w)
    (.ok n, w)

/-! ## Reads -/

/-- Run `f` with a scratch buffer of `n` bytes (`LoaderInput::scratch`), which goes back to the pool afterwards; without
one there is no data. -/
def withScratch (n : Nat) (w : World)
    (f : Scratch.Buffer → World → Option Bytes × Scratch.Buffer × World) : Option Bytes × World :=
  match w.pool.acquire w.allocator n w.host.config.maxScratch with
  | (.error _, pool) => (none, { w with pool := pool }.note .scratchRefused)
  | (.ok buffer, pool) =>
    let (data, buffer, w) := f buffer { w with pool := pool }
    (data, { w with pool := w.pool.release buffer })

/-- Up to `n` bytes; none if there are none (`LoaderInput::read`). -/
def read (h : Handle) (n : Nat) (w : World) : Except StreamError (Option Bytes) × World :=
  match h.ref? with
  | none => (.error .notOpened, w)
  | some r =>
    let (data, w) := withScratch n w fun buffer w =>
      let (t, w) := w.call .readBytes (World.readBytes r n)
      let buffer := buffer.write t.bytes
      (if t.count ≤ 0 then none else some (buffer.take t.count.toNat), buffer, w)
    (.ok data, w)

/-- One line of fewer than `n` bytes, up to its first NUL (`LoaderInput::read_line`). -/
def readLine (h : Handle) (n : Nat) (w : World) : Except StreamError (Option Bytes) × World :=
  match h.ref? with
  | none => (.error .notOpened, w)
  | some r =>
    let (data, w) := withScratch n w fun buffer w =>
      let ((ok, placed), w) := w.call .readLine (World.readLine r n)
      let buffer := buffer.write placed
      (if ok then some buffer.untilNul else none, buffer, w)
    (.ok data, w)

/-- A NUL-terminated string of fewer than `n` bytes, from `pos` if given (`LoaderInput::read_cstring`). -/
def readCString (h : Handle) (n : Nat) (pos : Option Int) (w : World) :
    Except StreamError (Option Bytes) × World :=
  match h.ref? with
  | none => (.error .notOpened, w)
  | some r =>
    if sizeLimit ≤ n + scratchGuard then (.ok none, w)
    else
      let (data, w) := withScratch (n + scratchGuard) w fun buffer w =>
        let ((ok, placed), w) := w.call .readCString (World.readCString r (pos.getD (-1)) n)
        let buffer := buffer.write placed
        (if ok then some buffer.untilNul else none, buffer, w)
      (.ok data, w)

/-- One byte, read without a scratch buffer (`LoaderInput::read_byte`). -/
def readByte (h : Handle) (w : World) : Except StreamError (Option UInt8) × World :=
  match h.ref? with
  | none => (.error .notOpened, w)
  | some r =>
    let (b, w) := w.call .readByte (World.readByte r)
    (.ok b, w)

/-- `n` bytes of the given byte order in little-endian order; none if the read failed (`LoaderInput::read_swapped`). -/
def readSwapped (h : Handle) (n : Nat) (bigEndian : Bool) (w : World) :
    Except StreamError (Option Bytes) × World :=
  match h.ref? with
  | none => (.error .notOpened, w)
  | some r =>
    if sizeLimit ≤ n + scratchGuard then (.ok none, w)
    else
      let (data, w) := withScratch (n + scratchGuard) w fun buffer w =>
        let (t, w) := w.call .readSwapped (World.readSwapped r bigEndian n)
        let buffer := buffer.write t.bytes
        (if t.count < 0 then none else some (buffer.take t.count.toNat), buffer, w)
      (.ok data, w)

/-- Load the stream from `filePos` on into `start..stop` of the address space
(`LoaderInput::copy_range_into_address_space`). -/
def copyRange (h : Handle) (filePos : Int) (start stop : Nat) (patchable : Bool) (w : World) :
    Except StreamError Int × World :=
  match h.ref? with
  | none => (.error .notOpened, w)
  | some r =>
    let (status, w) := w.call .loadRange (World.loadRange r filePos start stop patchable)
    (.ok status, w)

/-! ## State -/

/-- A capsule with the stream reference (`LoaderInput::to_capsule`). -/
def toCapsule (h : Handle) (w : World) : Option Value × World :=
  match h.ref? with
  | none => (none, w)
  | some r =>
    let (v, w) := w.make (.capsule ⟨capsuleTag, r.number, r.number_pos⟩)
    (some v, w)

def describe (h : Handle) : String :=
  "LoaderInput \x7b ownership: " ++ h.ownership.describe ++ ", name: " ++ Text.quoted h.name ++ " \x7d"

/-- The text of a read-only view of the handle (`InputView`). -/
def describeView (h : Handle) : String := "InputView(" ++ h.copy.describe ++ ")"

end Handle
end ScriptStreams
