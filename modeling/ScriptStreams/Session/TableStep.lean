import ScriptStreams.Session.Basic
/-!
# Steps below the handles

Steps that work on the stream table, the memory image and the address space themselves. They
open no window and record no call.
-/
namespace ScriptStreams

inductive TableStep where
  | openPath (path : String) (remote : Bool)
  | openMemory (start length : Nat)
  /-- Adapt the shared open file of a name. -/
  | adapt (raw : String)
  | register (source : Supplied)
  | stats
  | describe
  | closeCreated (r : StreamRef)
  | tearDown (r : StreamRef)
  | isLive (r : StreamRef)
  | seek (r : StreamRef) (offset : Int) (whence : Whence)
  | tell (r : StreamRef)
  | size (r : StreamRef)
  | readByte (r : StreamRef)
  | read (r : StreamRef) (buffer : Bytes)
  | readSwapped (r : StreamRef) (bigEndian : Bool) (buffer : Bytes)
  | readLine (r : StreamRef) (buffer : Bytes)
  | readCString (r : StreamRef) (pos : Int) (buffer : Bytes)

/-- Steps on a window that stands alone. -/
inductive WindowStep where
  | seek (offset : Int) (whence : Whence)
  | read (buffer : Bytes)
  | tell
  | size

inductive MemoryStep where
  | map (start : Nat) (data : Bytes)
  | unmap (start : Nat)
  | extent (addr : Nat)
  | read (addr : Nat) (buffer : Bytes)
  | window (start length : Nat) (steps : List WindowStep)

inductive SpaceStep where
  | load (r : StreamRef) (filePos : Int) (start stop : Nat) (patchable : Bool)
  | spans
  | isEnabled (addr : Nat)
  | read (addr n : Nat)
  | fileOffset (addr : Nat)
  | describe

namespace Answer

def ofRef : Option StreamRef → Answer
  | some r => .number r.number
  | none => .nothing

end Answer

namespace TableStep

def perform (rawNames : Keyed String Nat) (w : World) : TableStep → Answer × World
  | openPath path remote =>
    let (r, w) := w.openByPath path remote
    (.ofRef r, w)
  | openMemory start length =>
    let (r, w) := w.createMemoryStream start length
    (.ofRef r, w)
  | adapt raw =>
    match rawNames.get? raw with
    | some openFile =>
      let (r, w) := w.adaptRawHandle openFile
      (.ofRef r, w)
    | none => (.unknown, w)
  | register source =>
    let (r, w) := w.register .created (.supplied source)
    (.ofRef (some r), w)
  | stats => (.stats w.table.stats, w)
  | describe => (.text w.describeTable, w)
  | closeCreated r =>
    let w := w.release .created r
    (.stats w.table.stats, w)
  | tearDown r =>
    let w := w.release .adapted r
    (.stats w.table.stats, w)
  | isLive r => (.flag (w.table.isLive r), w)
  | seek r offset whence =>
    let (p, w) := w.seek r offset whence
    (.number p, w)
  | tell r =>
    let (p, w) := w.tell r
    (.number p, w)
  | size r => (.number (w.size r), w)
  | readByte r =>
    match w.readByte r with
    | (some b, w) => (.number b.toNat, w)
    | (none, w) => (.nothing, w)
  | read r buffer =>
    let ((count, buffer), w) := w.readBytesInto r buffer
    (.transfer count buffer, w)
  | readSwapped r bigEndian buffer =>
    let ((count, buffer), w) := w.readSwappedInto r bigEndian buffer
    (.transfer count buffer, w)
  | readLine r buffer =>
    let ((ok, buffer), w) := w.readLineInto r buffer
    (.found ok buffer, w)
  | readCString r pos buffer =>
    let ((ok, buffer), w) := w.readCStringInto r pos buffer
    (.found ok buffer, w)

end TableStep

namespace WindowStep

def perform (m : MemoryReader) (window : Window) : WindowStep → Answer × Window
  | seek offset whence =>
    let (p, window) := window.seek offset whence
    (.number p, window)
  | read buffer =>
    let ((count, buffer), window) := (Window.device m).readInto buffer window
    (.transfer count buffer, window)
  | tell => (.number ((Window.device m).tell window).1, window)
  | size => (.number window.size, window)

def performAll (m : MemoryReader) (window : Window) : List WindowStep → List Answer × Window
  | [] => ([], window)
  | step :: rest =>
    let (answer, window) := step.perform m window
    let (answers, window) := performAll m window rest
    (answer :: answers, window)

end WindowStep

namespace MemoryStep

def perform (img : Image) : MemoryStep → Answer × Image
  | map start data => (.nothing, img.map start data.toArray)
  | unmap start => (.flag (img.isMappedAt start), img.unmap start)
  | extent addr => (.number (img.extent addr), img)
  | read addr buffer =>
    let bs := img.read addr buffer.length
    (.transfer bs.length (Bytes.overlay buffer bs), img)
  | window start length steps =>
    match Window.create? img.reader start length with
    | none => (.nothing, img)
    | some view =>
      let (answers, after) := WindowStep.performAll img.reader view steps
      (.window view.start view.size answers after.describe, img)

end MemoryStep

namespace SpaceStep

def perform (w : World) : SpaceStep → Answer × World
  | load r filePos start stop patchable =>
    let (status, w) := w.loadSpace r filePos start stop patchable
    (.loaded status w.space.spans, w)
  | spans => (.spans w.space.spans, w)
  | isEnabled addr => (.flag (w.space.isEnabled addr), w)
  | read addr n =>
    match w.space.read? addr n with
    | some bs => (.data bs, w)
    | none => (.nothing, w)
  | fileOffset addr =>
    match w.space.fileOffset? addr with
    | some p => (.number p, w)
    | none => (.nothing, w)
  | describe => (.text w.space.describe, w)

end SpaceStep
end ScriptStreams
