import ScriptStreams.Source
/-!
# The stream table

Streams are registered under references that are handed out once (`register`), together with
how they came to be. A stream leaves the table only through the release of its own kind
(`release`), and the counters follow.
-/
namespace ScriptStreams

/-- An opaque, nonzero reference to a registered stream. -/
structure StreamRef where
  number : Nat
  number_pos : 0 < number
  deriving DecidableEq

namespace StreamRef

/-- The null reference refers to nothing (`StreamRef::from_raw`). -/
def ofNumber? (n : Nat) : Option StreamRef := if h : 0 < n then some ⟨n, h⟩ else none

def first : StreamRef := ⟨1, Nat.one_pos⟩

def next (r : StreamRef) : StreamRef := ⟨r.number + 1, Nat.succ_pos _⟩

def display (r : StreamRef) : String := Text.paddedHex 16 r.number

def describe (r : StreamRef) : String := "StreamRef(" ++ toString r.number ++ ")"

def compare (a b : StreamRef) : Ordering := Ord.compare a.number b.number

end StreamRef

/-- How a stream came to be, and so how it is released (`Origin`). -/
inductive StreamOrigin where
  /-- Opened by path, over memory or supplied by the caller; it is closed. -/
  | created
  /-- Adapted from a shared open file; it is torn down. -/
  | adapted
  deriving DecidableEq

structure Entry where
  origin : StreamOrigin
  source : Source

/-- The table's history in numbers. -/
structure TableStats where
  opened : Nat
  closed : Nat
  tornDown : Nat
  live : Nat
  deriving DecidableEq

namespace TableStats

def releases (s : TableStats) : Nat := s.closed + s.tornDown

def describe (s : TableStats) : String :=
  "TableStats \x7b opened: " ++ toString s.opened ++ ", closed: " ++ toString s.closed ++
    ", torn_down: " ++ toString s.tornDown ++ ", live: " ++ toString s.live ++ " \x7d"

end TableStats

/-- The live streams and the counters (`StreamTable`). -/
structure Table where
  entries : Keyed StreamRef Entry := []
  /-- The reference of the next stream. -/
  next : StreamRef := .first
  opened : Nat := 0
  closed : Nat := 0
  tornDown : Nat := 0

/-- What became of a request to release a stream. -/
inductive ReleaseOutcome where
  | released | wrongOrigin | unknown
  deriving DecidableEq

namespace Table

def entry? (t : Table) (r : StreamRef) : Option Entry := t.entries.get? r

/-- The reference is one of a registered stream (`StreamTable::is_live`). -/
def isLive (t : Table) (r : StreamRef) : Bool := (t.entry? r).isSome

/-- The counters and the number of live streams (`StreamTable::stats`). -/
def stats (t : Table) : TableStats := ⟨t.opened, t.closed, t.tornDown, t.entries.length⟩

/-- Put a stream under the next reference (`StreamTable::insert`). -/
def register (t : Table) (origin : StreamOrigin) (source : Source) : StreamRef × Table :=
  (t.next, { t with entries := t.entries.set t.next ⟨origin, source⟩, next := t.next.next, opened := t.opened + 1 })

/-- Count a release of the given kind. -/
def countRelease (t : Table) : StreamOrigin → Table
  | .created => { t with closed := t.closed + 1 }
  | .adapted => { t with tornDown := t.tornDown + 1 }

/-- Release a stream of the expected origin; any other request changes nothing (`StreamTable::release`). -/
def release (t : Table) (expected : StreamOrigin) (r : StreamRef) : ReleaseOutcome × Table :=
  match t.entry? r with
  | none => (.unknown, t)
  | some e =>
    if e.origin = expected then (.released, { t with entries := t.entries.erase r }.countRelease expected)
    else (.wrongOrigin, t)

/-- Put a stream's state back. -/
def update (t : Table) (r : StreamRef) (source : Source) : Table :=
  match t.entry? r with
  | some e => { t with entries := t.entries.set r { e with source } }
  | none => t

/-- Live adaptations of a shared open file. -/
def adaptations (t : Table) (openFile : Nat) : Nat :=
  t.entries.countP fun e => match e.2.source with
    | .shared n => n = openFile
    | _ => false

end Table
end ScriptStreams
