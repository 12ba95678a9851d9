import ScriptStreams.Keyed
import ScriptStreams.Text.Quoted
import ScriptStreams.Text.Utf8
/-!
# Stream configuration

The root that remote paths resolve below and the ceiling of a scratch buffer, read once from
variables. A missing, empty or unreadable variable leaves the default.
-/
namespace ScriptStreams

def Config.defaultMaxScratch : Nat := 67108864

/-- What is read from the variables (`StreamConfig`). -/
structure Config where
  /-- Remote opens fail while this is unset. -/
  remoteRoot : Option String := none
  /-- Largest scratch buffer one read may ask for. -/
  maxScratch : Nat := Config.defaultMaxScratch
  deriving DecidableEq

namespace Config

def remoteRootVariable : String := "LINPUT_REMOTE_ROOT"
def maxScratchVariable : String := "LINPUT_MAX_SCRATCH"

/-- The configuration that a look-up of variables gives (`StreamConfig::from_lookup`). -/
def ofLookup (lookup : String → Option String) : Config :=
  { remoteRoot := (lookup remoteRootVariable).filter (· ≠ "")
    maxScratch := ((lookup maxScratchVariable).bind Text.readCount?).getD defaultMaxScratch }

/-- Variables whose value is not well-formed text count as unset (`StreamConfig::from_env`). -/
def ofVariables (environment : Keyed String Bytes) : Config :=
  ofLookup fun name => (environment.get? name).bind Text.ofBytes?

/-- `path` below `root`: an absolute path stands alone, and one separator is put between. -/
def joinPath (root path : String) : String :=
  if path.toList.head? = some '/' then path
  else if root = "" ∨ root.toList.getLast? = some '/' then root ++ path
  else root ++ "/" ++ path

/-- A remote path without its leading separators of either kind. -/
def stripSeparators (path : String) : String :=
  String.ofList (path.toList.dropWhile fun c => c = '/' || c = '\\')

/-- Where a remote path leads (`StreamConfig::resolve_remote`). -/
def resolveRemote (c : Config) (path : String) : Option String :=
  c.remoteRoot.map fun root => joinPath root (stripSeparators path)

def describe (c : Config) : String :=
  let root := match c.remoteRoot with
    | some root => "Some(" ++ Text.quoted root ++ ")"
    | none => "None"
  "StreamConfig \x7b remote_root: " ++ root ++ ", max_scratch: " ++ toString c.maxScratch ++ " \x7d"

end Config
end ScriptStreams
