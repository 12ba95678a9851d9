import ScriptStreams.Session.Basic
/-!
# Steps on files and shared open files

Steps that change the files below the working directory, read a file apart from the stream table, or
hold shared open files under names. A shared open file lasts as long as a name or an adaptation
holds it (`Session.holders`).
-/
namespace ScriptStreams

inductive FileStep where
  | write (path : String) (data : Bytes)
  | append (path : String) (data : Bytes)
  | remove (path : String)
  /-- Open a file, seek, and read over the front of a buffer. -/
  | stream (path : String) (offset : Int) (whence : Whence) (buffer : Bytes)

inductive RawStep where
  | openPath (path : String) (mode : OpenMode)
  /-- The reading end of a pipe that holds `data`. -/
  | pipe (data : Bytes)
  /-- Hold the same open file under another name. -/
  | share (target : String)
  | drop
  | holders
  | read (n : Nat)
  | seek (offset : Int)
  | write (data : Bytes)

namespace FileStep

def perform (env : Environment) : FileStep → Answer × Environment
  | write path data => (.nothing, { env with files := env.files.write path data.toArray })
  | append path data => (.nothing, { env with files := env.files.append path data.toArray })
  | remove path => (.nothing, { env with files := env.files.remove path })
  | stream path offset whence buffer =>
    match env.files.fileAt path with
    | .error fault => (.unopened fault, env)
    | .ok id =>
      let (reached, s) := Source.device.seek offset whence (.file id 0, env)
      let ((count, buffer), s) := Source.device.readInto buffer s
      (.file path (Source.size s) reached count buffer (Source.device.tell s).1, env)

end FileStep

namespace Session

/-- The names and the live adaptations that hold a shared open file. -/
def holders (s : Session) (openFile : Nat) : Nat :=
  s.rawNames.countP (·.2 = openFile) + s.world.table.adaptations openFile

/-- Hold a new open file under a name. -/
def hold (s : Session) (raw : String) (f : OpenFile) : Session :=
  let (openFile, env) := s.world.env.share f
  { s with world := { s.world with env := env }, rawNames := s.rawNames.set raw openFile }

/-- Use the open file of a name and put it back. -/
def onRaw (s : Session) (raw : String) (f : Files → OpenFile → Answer × Files × OpenFile) : Answer × Session :=
  let env := s.world.env
  match s.rawNames.get? raw with
  | none => (.unknown, s)
  | some openFile =>
    match env.openFiles.get? openFile with
    | none => (.unknown, s)
    | some file =>
      let (answer, files, file) := f env.files file
      let env := { env with files := files, openFiles := env.openFiles.set openFile file }
      (answer, { s with world := { s.world with env := env } })

def rawStep (s : Session) (raw : String) : RawStep → Answer × Session
  | .openPath path mode =>
    match s.world.env.files.resolve path with
    | .ok (.file id) => (.nothing, s.hold raw (.file id mode 0))
    | .ok _ => if mode = .read then (.nothing, s.hold raw (.directory 0)) else (.unopened .isADirectory, s)
    | .error fault => (.unopened fault, s)
  | .pipe data => (.nothing, s.hold raw (.pipe data))
  | .share target =>
    match s.rawNames.get? raw with
    | some openFile =>
      let s := { s with rawNames := s.rawNames.set target openFile }
      (.shared true (s.holders openFile), s)
    | none => (.unknown, s)
  | .drop => (.flag (s.rawNames.contains raw), { s with rawNames := s.rawNames.erase raw })
  | .holders =>
    match s.rawNames.get? raw with
    | some openFile => (.number (s.holders openFile), s)
    | none => (.unknown, s)
  | .read n => s.onRaw raw fun files file =>
    let (t, file) := file.read files n
    (.data t.bytes, files, file)
  | .seek offset => s.onRaw raw fun files file =>
    let (p, file) := file.seek files offset .start
    (.number p, files, file)
  | .write data => s.onRaw raw fun files file =>
    let (files, file) := file.write files data
    (.nothing, files, file)

end Session
end ScriptStreams
