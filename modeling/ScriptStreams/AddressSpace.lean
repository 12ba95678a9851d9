import ScriptStreams.Allocator
import ScriptStreams.Device
import ScriptStreams.Event
/-!
# The address space

Ranges of addresses filled with bytes from streams. Loading a range replaces whatever it
overlaps and may remember the stream offset of each address; a refused or failed load changes nothing
(`LoadOutcome`). Look-ups consult the last range that starts at or below the address.
-/
namespace ScriptStreams

structure LoadedRange where
  start : Nat
  stop : Nat
  bytes : Bytes
  /-- The stream offset of `start`, remembered by patchable loads. -/
  filePos : Option Int
  deriving DecidableEq

namespace LoadedRange

def contains (r : LoadedRange) (addr : Nat) : Bool := r.start ≤ addr && addr < r.stop

/-- The range meets `start..stop`. An empty span inside the range counts as met. -/
def overlaps (r : LoadedRange) (start stop : Nat) : Bool := r.start < stop && start < r.stop

end LoadedRange

/-- The loaded ranges, in increasing order of their start. -/
abbrev AddressSpace := List LoadedRange

/-- How a load ended. -/
inductive LoadOutcome where
  | loaded
  | invertedRange
  | seekFailed
  | pastEnd
  | cannotAllocate
  | readFailed
  deriving DecidableEq

namespace LoadOutcome

def status : LoadOutcome → Int
  | loaded => 1
  | _ => 0

def event? : LoadOutcome → Option Event
  | loaded => none
  | invertedRange => some .invertedRange
  | seekFailed => some .seekFailed
  | pastEnd => some .pastEnd
  | cannotAllocate => some .cannotAllocate
  | readFailed => some .readFailed

end LoadOutcome

/-- `a - b`, kept within the signed 64-bit range. -/
def saturatingSub (a b : Int) : Int := max (-0x8000000000000000) (min 0x7fffffffffffffff (a - b))

namespace AddressSpace

/-- The range that holds `addr` (`AddressSpace::range_of`). -/
def rangeAt? (space : AddressSpace) (addr : Nat) : Option LoadedRange :=
  match (space.filter (·.start ≤ addr)).getLast? with
  | some r => if r.contains addr then some r else none
  | none => none

/-- The address is in a loaded range (`AddressSpace::is_enabled`). -/
def isEnabled (space : AddressSpace) (addr : Nat) : Bool := (space.rangeAt? addr).isSome

/-- `n` bytes at `addr`, if they lie in one range (`AddressSpace::read`). -/
def read? (space : AddressSpace) (addr n : Nat) : Option Bytes :=
  match space.rangeAt? addr with
  | some r =>
    let offset := addr - r.start
    if offset + n ≤ r.bytes.length then some ((r.bytes.drop offset).take n) else none
  | none => none

/-- The stream offset that `addr` was loaded from (`AddressSpace::file_offset`). -/
def fileOffset? (space : AddressSpace) (addr : Nat) : Option Int :=
  match space.rangeAt? addr with
  | some r => r.filePos.map fun pos => pos + (addr - r.start : Nat)
  | none => none

/-- Where the ranges begin and end (`AddressSpace::ranges`). -/
def spans (space : AddressSpace) : List (Nat × Nat) := space.map fun r => (r.start, r.stop)

/-- Put a range in its place. -/
def insert (new : LoadedRange) : AddressSpace → AddressSpace
  | [] => [new]
  | r :: rest => if new.start < r.start then new :: r :: rest else r :: insert new rest

/-- Replace what a new range overlaps; an empty one only takes away. -/
def replace (space : AddressSpace) (new : LoadedRange) : AddressSpace :=
  let kept := space.filter fun r => !r.overlaps new.start new.stop
  if new.start < new.stop then insert new kept else kept

/-- Copy the bytes from `filePos` on into `start..stop`, by way of a buffer for all of them
(`AddressSpace::load_range`). -/
def load {σ : Type} (a : Allocator) (d : Device σ) (space : AddressSpace) (filePos : Int) (start stop : Nat)
    (patchable : Bool) (s : σ) : LoadOutcome × AddressSpace × σ :=
  if stop < start then (.invertedRange, space, s)
  else
    let n := stop - start
    let (reached, s) := d.seek filePos .start s
    if reached ≠ filePos then (.seekFailed, space, s)
    else
      let available := saturatingSub (d.size s) filePos
      if 0 ≤ available ∧ available < n then (.pastEnd, space, s)
      else if !a.reserves n then (.cannotAllocate, space, s)
      else
        let (bytes, s) := d.readFull n n s
        if bytes.length < n then (.readFailed, space, s)
        else (.loaded, space.replace ⟨start, stop, bytes, if patchable then some filePos else none⟩, s)

def describe (space : AddressSpace) : String :=
  let spans := space.spans.map fun (a, b) => "(" ++ toString a ++ ", " ++ toString b ++ ")"
  "AddressSpace \x7b ranges: [" ++ ", ".intercalate spans ++ "] \x7d"

end AddressSpace
end ScriptStreams
