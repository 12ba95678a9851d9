import ScriptStreams.Handle
/-!
# Script methods

The methods that scripts call on a handle: their table (`Method.definition`), the conversion of script
values into a request (`Method.request`) and its execution (`Request.perform`). A call fails, before
anything happens, for an unknown name, a wrong number of arguments or the first argument that does
not convert (`CallFault`); later only because the handle is not open.
-/
namespace ScriptStreams

inductive Method where
  | open | openMemory | setLinput | close | seek | tell | size | read
  | gets | getz | getByte | readbytes | file2base | opened | filename
  deriving DecidableEq

/-- An error as a script sees it: a class of errors and a text (`CallError`). -/
inductive ScriptError where
  | typeError (text : String)
  | attributeError (name : String)
  | valueError (text : String)
  deriving DecidableEq

def ScriptError.message : ScriptError → String
  | typeError text => "TypeError: " ++ text
  | attributeError name => "AttributeError: 'LoaderInput' object has no attribute '" ++ name ++ "'"
  | valueError text => "ValueError: " ++ text

/-- A failed stream operation as scripts see it. -/
def StreamError.toScript (e : StreamError) : ScriptError := .valueError e.message

/-- What scripts are told about a method (`MethodDef`). The defaults fill its trailing arguments. -/
structure MethodDefinition where
  name : String
  signature : String
  summary : String
  required : Nat
  defaults : List Value

namespace MethodDefinition

/-- Arguments at most (`MethodDef::max_args`). -/
def maxArguments (d : MethodDefinition) : Nat := d.required + d.defaults.length

/-- What a script is shown about the method (`doc`). -/
def documentation (d : MethodDefinition) : String := d.signature ++ "\n\n" ++ d.summary

end MethodDefinition

namespace Method

/-- All methods, in the order in which they are listed. -/
def all : List Method :=
  [.open, .openMemory, .setLinput, .close, .seek, .tell, .size, .read, .gets, .getz, .getByte,
    .readbytes, .file2base, .opened, .filename]

/-- The table of the methods (`METHODS`). -/
def definition : Method → MethodDefinition
  | .open =>
    { name := "open"
      signature := "open(filename, remote=False) -> bool"
      summary := "Open a file, closing the current one first. With remote set, the name is resolved " ++
        "in the remote namespace."
      required := 1
      defaults := [.bool false] }
  | .openMemory =>
    { name := "open_memory"
      signature := "open_memory(start, size=0) -> bool"
      summary := "Open a window of process memory at start. A size of 0 reads up to the end of the " ++
        "mapped memory. The current input is kept when this fails."
      required := 1
      defaults := [.int 0] }
  | .setLinput =>
    { name := "set_linput"
      signature := "set_linput(linput) -> None"
      summary := "Attach a stream owned elsewhere. It is never closed through this object."
      required := 1
      defaults := [] }
  | .close =>
    { name := "close"
      signature := "close() -> None"
      summary := "Close the input. Attached streams are only detached."
      required := 0
      defaults := [] }
  | .seek =>
    { name := "seek"
      signature := "seek(pos, whence=SEEK_SET) -> int"
      summary := "Move to pos relative to whence. Returns the new position."
      required := 1
      defaults := [.int Whence.start.code] }
  | .tell =>
    { name := "tell"
      signature := "tell() -> int"
      summary := "Current position."
      required := 0
      defaults := [] }
  | .size =>
    { name := "size"
      signature := "size() -> int"
      summary := "Input length, or -1 if unknown."
      required := 0
      defaults := [] }
  | .read =>
    { name := "read"
      signature := "read(size) -> bytes | None"
      summary := "Read up to size bytes. None if nothing could be read."
      required := 1
      defaults := [] }
  | .gets =>
    { name := "gets"
      signature := "gets(len) -> str | None"
      summary := "Read one line of at most len - 1 bytes. None at end of input."
      required := 1
      defaults := [] }
  | .getz =>
    { name := "getz"
      signature := "getz(sz, fpos=-1) -> str | None"
      summary := "Read a zero-terminated string of at most sz - 1 bytes, after moving to fpos unless " ++
        "it is -1."
      required := 1
      defaults := [.int (-1)] }
  | .getByte =>
    { name := "get_byte"
      signature := "get_byte() -> int | None"
      summary := "Read one byte. None at end of input."
      required := 0
      defaults := [] }
  | .readbytes =>
    { name := "readbytes"
      signature := "readbytes(size, big_endian) -> bytes | None"
      summary := "Read size bytes stored in the given byte order. 2, 4 and 8 byte values come back in " ++
        "host order."
      required := 2
      defaults := [] }
  | .file2base =>
    { name := "file2base"
      signature := "file2base(pos, ea1, ea2, patchable) -> int"
      summary := "Load the input from pos into addresses ea1..ea2. With patchable, the file offset of " ++
        "each address is remembered. Returns 1 on success and 0 on a read error."
      required := 4
      defaults := [] }
  | .opened =>
    { name := "opened"
      signature := "opened() -> bool"
      summary := "Whether an input is open."
      required := 0
      defaults := [] }
  | .filename =>
    { name := "filename"
      signature := "filename() -> str"
      summary := "Name of the open input."
      required := 0
      defaults := [] }

def name (m : Method) : String := m.definition.name

/-- The method of a name (`lookup`). -/
def named? (name : String) : Option Method := all.find? (·.name = name)

theorem mem_all (m : Method) : m ∈ all := by cases m <;> decide

theorem named?_name (m : Method) : named? m.name = some m := by cases m <;> decide

end Method

/-! ## Arguments -/

/-- Why a call fails before anything happens. Arguments are numbered from 1. -/
inductive CallFault where
  | noSuchMethod (name : String)
  | argumentCount (method : Method) (given : Nat)
  | argumentType (method : Method) (argument : Nat) (expected got : String)
  | negativeArgument (method : Method) (argument : Nat) (n : Int)
  | invalidWhence (n : Int)
  deriving DecidableEq

namespace CallFault

/-- How many arguments a method takes, in words (`arity_message`). -/
def expectedCount (d : MethodDefinition) : String :=
  if d.defaults = [] then "exactly " ++ toString d.required
  else "from " ++ toString d.required ++ " to " ++ toString d.maxArguments

def toScript : CallFault → ScriptError
  | noSuchMethod name => .attributeError name
  | argumentCount m given =>
    .typeError (m.name ++ "() takes " ++ expectedCount m.definition ++ " positional arguments but " ++
      toString given ++ " were given")
  | argumentType m argument expected got =>
    .typeError (m.name ++ "() argument " ++ toString argument ++ " must be " ++ expected ++ ", not " ++ got)
  | negativeArgument m argument n =>
    .typeError (m.name ++ "() argument " ++ toString argument ++ " must be non-negative, got " ++ toString n)
  | invalidWhence n => .valueError ("invalid whence (" ++ toString n ++ ", should be 0, 1 or 2)")

end CallFault

namespace Method

/-- The arguments with defaults for those left out (`normalize`). -/
def complete (m : Method) (args : List Value) : Except CallFault (List Value) :=
  let d := m.definition
  if args.length < d.required ∨ d.maxArguments < args.length then .error (.argumentCount m args.length)
  else .ok (args ++ d.defaults.drop (args.length - d.required))

/-! The arguments are read one by one (`Arguments`): `mismatch` is the fault of one that has another type, and `int`,
`count`, `address`, `flag`, `string`, `whence` and `stream` convert what has the right one. -/

variable (m : Method) (args : List Value)

def mismatch (i : Nat) (expected : String) : CallFault :=
  .argumentType m (i + 1) expected ((args[i]?.map Value.typeName).getD "nothing")

def intArg (i : Nat) : Except CallFault Int :=
  match args[i]?.bind Value.asInt? with
  | some n => .ok n
  | none => .error (mismatch m args i "int")

def countArg (i : Nat) : Except CallFault Nat :=
  match intArg m args i with
  | .ok n => if 0 ≤ n then .ok n.toNat else .error (.negativeArgument m (i + 1) n)
  | .error e => .error e

def addressArg (i : Nat) : Except CallFault Nat :=
  match intArg m args i with
  | .ok n => if 0 ≤ n then .ok n.toNat else .error (mismatch m args i "an address")
  | .error e => .error e

def flagArg (i : Nat) : Except CallFault Bool :=
  match args[i]?.bind Value.asBool? with
  | some b => .ok b
  | none => .error (mismatch m args i "bool")

def textArg (i : Nat) : Except CallFault String :=
  match args[i]?.bind Value.asText? with
  | some s => .ok s
  | none => .error (mismatch m args i "str")

def whenceArg (i : Nat) : Except CallFault Whence :=
  match intArg m args i with
  | .ok n => match Whence.ofCode? n with
    | some w => .ok w
    | none => .error (.invalidWhence n)
  | .error e => .error e

/-- The stream that a capsule of ours or a positive integer refers to. -/
def refOf? (v : Value) : Option StreamRef :=
  match v with
  | .capsule c => if c.tag = Handle.capsuleTag then some ⟨c.address, c.address_pos⟩ else none
  | v => v.asInt?.bind fun n => StreamRef.ofNumber? n.toNat

def streamArg (i : Nat) : Except CallFault StreamRef :=
  match args[i]?.bind refOf? with
  | some r => .ok r
  | none => .error (mismatch m args i "a stream capsule")

end Method

/-! ## Requests -/

/-- A call whose arguments are converted. -/
inductive Request where
  | open (path : String) (remote : Bool)
  | openMemory (start size : Nat)
  | attach (r : StreamRef)
  | close
  | seek (offset : Int) (whence : Whence)
  | tell
  | size
  | read (n : Nat)
  | readLine (n : Nat)
  | readCString (n : Nat) (pos : Option Int)
  | readByte
  | readSwapped (n : Nat) (bigEndian : Bool)
  | copyRange (filePos : Int) (start stop : Nat) (patchable : Bool)
  | isOpen
  | name
  deriving DecidableEq

/-- Convert complete arguments from left to right. -/
def Method.request (m : Method) (args : List Value) : Except CallFault Request :=
  match m with
  | .open => do
    let path ← textArg m args 0
    let remote ← flagArg m args 1
    return .open path remote
  | .openMemory => do
    let start ← addressArg m args 0
    let size ← addressArg m args 1
    return .openMemory start size
  | .setLinput => do
    let r ← streamArg m args 0
    return .attach r
  | .close => return .close
  | .seek => do
    let offset ← intArg m args 0
    let whence ← whenceArg m args 1
    return .seek offset whence
  | .tell => return .tell
  | .size => return .size
  | .read => do
    let n ← countArg m args 0
    return .read n
  | .gets => do
    let n ← countArg m args 0
    return .readLine n
  | .getz => do
    let n ← countArg m args 0
    let pos ← intArg m args 1
    return .readCString n (if pos = -1 then none else some pos)
  | .getByte => return .readByte
  | .readbytes => do
    let n ← countArg m args 0
    let bigEndian ← flagArg m args 1
    return .readSwapped n bigEndian
  | .file2base => do
    let filePos ← intArg m args 0
    let start ← addressArg m args 1
    let stop ← addressArg m args 2
    let patchable ← flagArg m args 3
    return .copyRange filePos start stop patchable
  | .opened => return .isOpen
  | .filename => return .name

/-- The request that calling `name` with `args` makes. -/
def Request.ofCall (name : String) (args : List Value) : Except CallFault Request := do
  let m ← match Method.named? name with
    | some m => .ok m
    | none => .error (.noSuchMethod name)
  let args ← m.complete args
  m.request args

namespace Handle

/-- Hand data over as a byte string, or nothing (`bytes_or_none`). -/
def bytesOrNone (data : Option Bytes) (w : World) : Value × World :=
  match data with
  | some data => w.make (.bytes data)
  | none => (.none, w)

/-- Hand data over as a text, or nothing (`str_or_none`). -/
def textOrNone (data : Option Bytes) (w : World) : Value × World :=
  match data with
  | some data => w.make (.text data)
  | none => (.none, w)

/-- An integer result, or the error. -/
def intResult (h : Handle) : Except StreamError Int × World → Except StreamError Value × Handle × World
  | (.ok n, w) => (.ok (.int n), h, w)
  | (.error e, w) => (.error e, h, w)

/-- A data result, made into a value, or the error. -/
def dataResult (h : Handle) (make : Option Bytes → World → Value × World) :
    Except StreamError (Option Bytes) × World → Except StreamError Value × Handle × World
  | (.ok data, w) => let (v, w) := make data w; (.ok v, h, w)
  | (.error e, w) => (.error e, h, w)

/-- Whether an open succeeded. -/
def openResult : Except StreamError Unit × Handle × World → Except StreamError Value × Handle × World
  | (.ok (), h, w) => (.ok (.bool true), h, w)
  | (.error _, h, w) => (.ok (.bool false), h, w)

/-- Carry a request out. -/
def perform (h : Handle) (q : Request) (w : World) : Except StreamError Value × Handle × World :=
  match q with
  | .open path remote => openResult (h.openPath path remote w)
  | .openMemory start size => openResult (h.openMemory start size w)
  | .attach r =>
    let (h, w) := h.attach r w
    (.ok .none, h, w)
  | .close =>
    let (h, w) := h.close w
    (.ok .none, h, w)
  | .seek offset whence => h.intResult (h.seek offset whence w)
  | .tell => h.intResult (h.tell w)
  | .size => h.intResult (h.size w)
  | .read n => h.dataResult bytesOrNone (h.read n w)
  | .readLine n => h.dataResult textOrNone (h.readLine n w)
  | .readCString n pos => h.dataResult textOrNone (h.readCString n pos w)
  | .readByte =>
    match h.readByte w with
    | (.ok (some b), w) => (.ok (.int b.toNat), h, w)
    | (.ok none, w) => (.ok .none, h, w)
    | (.error e, w) => (.error e, h, w)
  | .readSwapped n bigEndian => h.dataResult bytesOrNone (h.readSwapped n bigEndian w)
  | .copyRange filePos start stop patchable => h.intResult (h.copyRange filePos start stop patchable w)
  | .isOpen => (.ok (.bool h.isOpen), h, w)
  | .name =>
    let (v, w) := w.make (.text (Text.toBytes h.name))
    (.ok v, h, w)

/-- Call a method by name (`call_method`). -/
def callMethod (h : Handle) (name : String) (args : List Value) (w : World) :
    Except ScriptError Value × Handle × World :=
  match Request.ofCall name args with
  | .error fault => (.error fault.toScript, h, w)
  | .ok q =>
    match h.perform q w with
    | (.ok v, h, w) => (.ok v, h, w)
    | (.error e, h, w) => (.error e.toScript, h, w)

end Handle
end ScriptStreams
