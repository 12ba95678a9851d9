import ScriptStreams.Device
import ScriptStreams.Keyed
import ScriptStreams.Text.Utf8
/-!
# Files

A tree of directories and files, and a working directory in it. Paths are followed name by name, absolute ones from the
root of the tree and all others from the working directory. A file has an identity apart from its path: writing changes
its content in place, and a removed file keeps its content for those who have it open.
-/
namespace ScriptStreams

abbrev FileId := Nat

inductive Node where
  | file (id : FileId)
  | directory
  deriving DecidableEq

/-- Why a path could not be opened as a file. -/
inductive OpenFault where
  | notFound
  | notADirectory
  | isADirectory
  | nulInPath
  | nameTooLong
  deriving DecidableEq

def OpenFault.message : OpenFault → String
  | notFound => "No such file or directory (os error 2)"
  | notADirectory => "Not a directory (os error 20)"
  | isADirectory => "Is a directory (os error 21)"
  | nulInPath => "file name contained an unexpected NUL byte"
  | nameTooLong => "File name too long (os error 36)"

structure Files where
  /-- What is in the tree, by the names that lead there from its root. -/
  tree : Keyed (List String) Node := []
  /-- The names that lead to the working directory. -/
  workingDirectory : List String := []
  contents : Keyed FileId (Array UInt8) := []
  /-- The identity of the next new file. -/
  next : FileId := 0

namespace Files

/-- A place reached while a path is followed. -/
inductive Place where
  | directory (names : List String)
  | file (id : FileId)
  deriving DecidableEq

/-- Longest name in a directory, in bytes. -/
def maxName : Nat := 255

/-- Paths of this many bytes or more are refused. -/
def pathLimit : Nat := 4096

/-- Go from a place to the name `c`. Above the root of the tree there is nothing but the root. -/
def enter (fs : Files) (here : Place) (c : String) : Except OpenFault Place :=
  match here with
  | .file _ => .error .notADirectory
  | .directory names =>
    if c = "" ∨ c = "." then .ok (.directory names)
    else if c = ".." then .ok (.directory names.dropLast)
    else if c.utf8ByteSize > maxName then .error .nameTooLong
    else match fs.tree.get? (names ++ [c]) with
      | none => .error .notFound
      | some (.file id) => .ok (.file id)
      | some .directory => .ok (.directory (names ++ [c]))

def walk (fs : Files) : Place → List String → Except OpenFault Place
  | here, [] => .ok here
  | here, c :: rest =>
    match fs.enter here c with
    | .ok place => walk fs place rest
    | .error fault => .error fault

/-- The place where following a path begins. -/
def origin (fs : Files) (path : String) : Place :=
  .directory (if path.toList.head? = some '/' then [] else fs.workingDirectory)

def resolve (fs : Files) (path : String) : Except OpenFault Place :=
  if path.toList.contains '\x00' then .error .nulInPath
  else if path = "" then .error .notFound
  else if path.utf8ByteSize ≥ pathLimit then .error .nameTooLong
  else fs.walk (fs.origin path) (path.splitOn "/")

/-- The file that a path leads to, if a stream can be opened on it (`FileStream::open`). -/
def fileAt (fs : Files) (path : String) : Except OpenFault FileId :=
  match fs.resolve path with
  | .ok (.file id) => .ok id
  | .ok _ => .error .isADirectory
  | .error fault => .error fault

/-- The content of a file, of a removed one too. -/
def content (fs : Files) (id : FileId) : Array UInt8 := (fs.contents.get? id).getD #[]

def size (fs : Files) (id : FileId) : Nat := (fs.content id).size

def setContent (fs : Files) (id : FileId) (data : Array UInt8) : Files :=
  { fs with contents := fs.contents.set id data }

/-! ## Changes -/

def addDirectory (fs : Files) (names : List String) : Files :=
  { fs with tree := fs.tree.set names .directory }

/-- Follow names from a place and make the directories that are missing on the way. -/
def makeDirectories (fs : Files) : Place → List String → Except OpenFault Files
  | _, [] => .ok fs
  | here, c :: rest =>
    match fs.enter here c, here with
    | .ok place, _ => makeDirectories fs place rest
    | .error .notFound, .directory names =>
      makeDirectories (fs.addDirectory (names ++ [c])) (.directory (names ++ [c])) rest
    | .error fault, _ => .error fault

def makeDirectory (fs : Files) (path : String) : Except OpenFault Files :=
  if path.toList.contains '\x00' then .error .nulInPath
  else if path.utf8ByteSize ≥ pathLimit then .error .nameTooLong
  else fs.makeDirectories (fs.origin path) (path.splitOn "/")

def create (fs : Files) (names : List String) (data : Array UInt8) : Files :=
  { fs with
    tree := fs.tree.set names (.file fs.next)
    contents := fs.contents.set fs.next data
    next := fs.next + 1 }

/-- Write a file: an existing one gets a new content in place, a missing one is created if its directory is
there. -/
def tryWrite (fs : Files) (path : String) (data : Array UInt8) : Except OpenFault Files :=
  match fs.fileAt path with
  | .ok id => .ok (fs.setContent id data)
  | .error .notFound =>
    let parts := path.splitOn "/"
    match fs.walk (fs.origin path) parts.dropLast, parts.getLast? with
    | .ok (.directory names), some name =>
      if name = "" then .error .notFound else .ok (fs.create (names ++ [name]) data)
    | _, _ => .error .notFound
  | .error fault => .error fault

/-- Where a file cannot be written nothing changes. -/
def write (fs : Files) (path : String) (data : Array UInt8) : Files := (fs.tryWrite path data).toOption.getD fs

/-- A working directory with nothing in it. -/
def empty : Files := { tree := [(["session"], .directory)], workingDirectory := ["session"] }

/-- Make these directories and then write these files. -/
def populate (fs : Files) (directories : List String) (files : List (String × Array UInt8)) : Except OpenFault Files := do
  let fs ← directories.foldlM makeDirectory fs
  files.foldlM (fun fs (path, data) => fs.tryWrite path data) fs

/-- A working directory with these directories and files, if all of them can be made. -/
def ofEntries (directories : List String) (files : List (String × Array UInt8)) : Files :=
  (empty.populate directories files).toOption.getD empty

/-- Why there is no such working directory. -/
def fault? (directories : List String) (files : List (String × Array UInt8)) : Option OpenFault :=
  match empty.populate directories files with
  | .ok _ => none
  | .error fault => some fault

/-- Write behind the end of a file; a missing one is created. -/
def append (fs : Files) (path : String) (data : Array UInt8) : Files :=
  match fs.fileAt path with
  | .ok id => fs.setContent id (fs.content id ++ data)
  | .error _ => fs.write path data

/-- Take a file's name away. -/
def remove (fs : Files) (path : String) : Files :=
  match fs.fileAt path with
  | .ok id => { fs with tree := fs.tree.filter (·.2 ≠ .file id) }
  | .error _ => fs

/-- Write `data` into a file at a position; a gap before it is filled with zeros. Writing no bytes
changes nothing. -/
def writeAt (fs : Files) (id : FileId) (pos : Nat) (data : Bytes) : Files :=
  if data.isEmpty then fs else
  let old := (fs.content id).toList
  let before := old.take pos ++ Bytes.zeros (pos - old.length)
  fs.setContent id (before ++ data ++ old.drop (pos + data.length)).toArray

end Files

/-! ## Shared open files -/

/-- What a file was opened for. -/
inductive OpenMode where
  | read | write | readWrite
  deriving DecidableEq

namespace OpenMode

def readable : OpenMode → Bool
  | write => false
  | _ => true

def writable : OpenMode → Bool
  | read => false
  | _ => true

end OpenMode

/-- An open file whose position all its holders share (`RawHandle`). -/
inductive OpenFile where
  | file (id : FileId) (mode : OpenMode) (pos : Nat)
  | directory (pos : Nat)
  /-- The reading end of a pipe nobody writes to any more. -/
  | pipe (pending : Bytes)

namespace OpenFile

def seek (fs : Files) (offset : Int) (whence : Whence) : OpenFile → Int × OpenFile
  | .file id mode pos =>
    match landing pos (fs.size id) offset whence with
    | some target => (target, .file id mode target)
    | none => (-1, .file id mode pos)
  | .directory pos =>
    match landing pos 0 offset whence with
    | some target => (target, .directory target)
    | none => (-1, .directory pos)
  | .pipe pending => (-1, .pipe pending)

/-- Bytes behind the handle; a pipe and a directory have no length (`file_size`). -/
def size (fs : Files) : OpenFile → Int
  | .file id _ _ => fs.size id
  | _ => 0

/-- One answer of the system to a read of `n` bytes. -/
def deliver (fs : Files) (n : Nat) : OpenFile → Delivery × OpenFile
  | .file id mode pos =>
    if mode.readable then
      let bs := Bytes.slice (fs.content id) pos n
      (.bytes bs, .file id mode (pos + bs.length))
    else (.failure, .file id mode pos)
  | .pipe pending => (.bytes (pending.take n), .pipe (pending.drop n))
  | .directory pos => (.failure, .directory pos)

def read (fs : Files) (n : Nat) (f : OpenFile) : Transfer × OpenFile := fill (deliver fs) n f

/-- Write at the shared position, if the file is open for writing. -/
def write (fs : Files) (data : Bytes) : OpenFile → Files × OpenFile
  | .file id mode pos =>
    if mode.writable then (fs.writeAt id pos data, .file id mode (pos + data.length))
    else (fs, .file id mode pos)
  | f => (fs, f)

end OpenFile
end ScriptStreams
