import ScriptStreams.Files
import ScriptStreams.Memory
/-!
# Backing media

What can stand behind a stream: a file with a position of its own, a shared open file whose
position all holders move, a window of memory, or a source supplied by the caller. Together with
the files, the open files and the memory around them they are one device (`Source.device`).
-/
namespace ScriptStreams

/-- What surrounds the streams. -/
structure Environment where
  files : Files := {}
  /-- Shared open files by number. -/
  openFiles : Keyed Nat OpenFile := []
  image : Image := []

namespace Environment

/-- Share an open file under the next number; numbers are never given up. -/
def share (env : Environment) (f : OpenFile) : Nat × Environment :=
  (env.openFiles.length, { env with openFiles := env.openFiles.set env.openFiles.length f })

end Environment

/-- A source supplied by the caller (`StreamTable::register`): `data` handed out in chunks (as asked for `chunk = 0`),
failing with `failCode` from `failAt` on, with a length that it reports as it likes. -/
structure Supplied where
  data : Array UInt8
  chunk : Nat := 0
  failAt : Option Int := none
  failCode : Int := -1
  reportedSize : Int
  seekable : Bool := true
  pos : Nat := 0

namespace Supplied

def seek (offset : Int) (whence : Whence) (s : Supplied) : Int × Supplied :=
  match if s.seekable then landing s.pos s.data.size offset whence else none with
  | some target => (target, { s with pos := target })
  | none => (-1, s)

def hasFailed (s : Supplied) : Bool :=
  match s.failAt with
  | some failAt => failAt ≤ s.pos
  | none => false

/-- Where the bytes end: at the failure or at the end of the data. -/
def stop (s : Supplied) : Nat :=
  match s.failAt with
  | some failAt => min s.data.size failAt.toNat
  | none => s.data.size

def read (n : Nat) (s : Supplied) : Transfer × Supplied :=
  if s.hasFailed then (⟨s.failCode, []⟩, s)
  else
    let asked := if s.chunk = 0 then n else min n s.chunk
    let bs := Bytes.slice s.data s.pos (min asked (s.stop - s.pos))
    (⟨bs.length, bs⟩, { s with pos := s.pos + bs.length })

end Supplied

/-- What stands behind a stream: a `FileStream`, a `RawStream`, a `MemoryStream` or a source of the caller. -/
inductive Source where
  | file (id : FileId) (pos : Nat)
  | shared (openFile : Nat)
  | window (w : Window)
  | supplied (s : Supplied)

namespace Source

/-- The file's answer to a read: the system delivers what there is. -/
def deliverFile (content : Array UInt8) (n pos : Nat) : Delivery × Nat :=
  let bs := Bytes.slice content pos n
  (.bytes bs, pos + bs.length)

def seek (offset : Int) (whence : Whence) : Source × Environment → Int × Source × Environment
  | (.file id pos, env) =>
    match landing pos (env.files.size id) offset whence with
    | some target => (target, .file id target, env)
    | none => (-1, .file id pos, env)
  | (.shared n, env) =>
    match env.openFiles.get? n with
    | some f =>
      let (p, f) := f.seek env.files offset whence
      (p, .shared n, { env with openFiles := env.openFiles.set n f })
    | none => (-1, .shared n, env)
  | (.window w, env) =>
    let (p, w) := w.seek offset whence
    (p, .window w, env)
  | (.supplied s, env) =>
    let (p, s) := s.seek offset whence
    (p, .supplied s, env)

def size : Source × Environment → Int
  | (.file id _, env) => env.files.size id
  | (.shared n, env) => ((env.openFiles.get? n).map (OpenFile.size env.files)).getD (-1)
  | (.window w, _) => w.size
  | (.supplied s, _) => s.reportedSize

def read (n : Nat) : Source × Environment → Transfer × Source × Environment
  | (.file id pos, env) =>
    let (t, pos) := fill (deliverFile (env.files.content id)) n pos
    (t, .file id pos, env)
  | (.shared k, env) =>
    match env.openFiles.get? k with
    | some f =>
      let (t, f) := f.read env.files n
      (t, .shared k, { env with openFiles := env.openFiles.set k f })
    | none => (⟨-1, []⟩, .shared k, env)
  | (.window w, env) =>
    let (t, w) := w.read env.image.reader n
    (t, .window w, env)
  | (.supplied s, env) =>
    let (t, s) := s.read n
    (t, .supplied s, env)

/-- All media as one device (`NativeStream`). -/
def device : Device (Source × Environment) where
  seek := seek
  size := size
  read := read

end Source
end ScriptStreams
