import ScriptStreams.Device
import ScriptStreams.Text.Numeral
/-!
# Process memory

A memory image is a sparse set of segments in increasing order of their start. The segment
looked at for an address is the one with the greatest start not above it. A window is a stream
over a fixed range of memory, however that is read (`MemoryReader`).
-/
namespace ScriptStreams

/-- Addresses are below this bound. -/
def addressLimit : Nat := UInt64.size

structure Segment where
  start : Nat
  bytes : Array UInt8

/-- The segments, in increasing order of their start (`SegmentMemory`). -/
abbrev Image := List Segment

namespace Image

/-- Map a segment; one with the same start is replaced (`SegmentMemory::map`). -/
def map (start : Nat) (bytes : Array UInt8) : Image → Image
  | [] => [⟨start, bytes⟩]
  | s :: rest =>
    if start < s.start then ⟨start, bytes⟩ :: s :: rest
    else if start = s.start then ⟨start, bytes⟩ :: rest
    else s :: map start bytes rest

/-- Take the segment with this start away (`SegmentMemory::unmap`). -/
def unmap (img : Image) (start : Nat) : Image := img.filter (·.start ≠ start)

def isMappedAt (img : Image) (start : Nat) : Bool := img.any (·.start = start)

/-- The last segment that starts at `addr` or below it. -/
def below? (img : Image) (addr : Nat) : Option Segment := (img.filter (·.start ≤ addr)).getLast?

/-- The segment that holds `addr` and the offset of `addr` in it (`SegmentMemory::locate`). -/
def locate? (img : Image) (addr : Nat) : Option (Segment × Nat) :=
  match img.below? addr with
  | some s => if addr - s.start < s.bytes.size then some (s, addr - s.start) else none
  | none => none

theorem locate?_lt {img : Image} {addr : Nat} {s : Segment} {offset : Nat}
    (h : img.locate? addr = some (s, offset)) : offset < s.bytes.size := by
  unfold locate? at h
  split at h
  · split at h
    · cases h; assumption
    · cases h
  · cases h

/-- Up to `n` bytes from `addr` on, stopping at the first unmapped one. Every round copies a byte,
so `fuel = n` is enough. -/
def copy (img : Image) : (fuel addr n : Nat) → Bytes
  | 0, _, _ => []
  | fuel + 1, addr, n =>
    if n = 0 ∨ addressLimit ≤ addr then [] else
    match img.locate? addr with
    | none => []
    | some (s, offset) =>
      let bs := Bytes.slice s.bytes offset n
      bs ++ copy img fuel (addr + bs.length) (n - bs.length)

/-- What is mapped from `addr` on, up to `n` bytes (`SegmentMemory::read_memory`). -/
def read (img : Image) (addr n : Nat) : Bytes := img.copy n addr n

/-- Length of the contiguously mapped memory from `addr` on (`SegmentMemory::mapped_extent`). -/
def extent (img : Image) (addr : Nat) : Nat :=
  if addressLimit ≤ addr then 0 else
  match _located : img.locate? addr with
  | none => 0
  | some (s, offset) => s.bytes.size - offset + img.extent (addr + (s.bytes.size - offset))
  termination_by addressLimit - addr
  decreasing_by
    have := locate?_lt _located
    omega

end Image

/-- How memory is read: up to `n` bytes from an address on, and the mapped extent at an address. -/
structure MemoryReader where
  read : (addr n : Nat) → Bytes
  extent : (addr : Nat) → Nat

def Image.reader (img : Image) : MemoryReader := ⟨img.read, img.extent⟩

/-- A window of process memory, `size` bytes from `start` on, read from `pos` (`MemoryStream`). -/
structure Window where
  start : Nat
  size : Nat
  pos : Nat := 0
  deriving DecidableEq

namespace Window

/-- A window of `size` bytes; size 0 asks for the mapped extent. None if that is empty, too long for
a stream, or reaches past the last address (`MemoryStream::new`). -/
def create? (m : MemoryReader) (start size : Nat) : Option Window :=
  let size := if size = 0 then m.extent start else size
  if size = 0 ∨ maxPosition < size ∨ addressLimit ≤ start + size then none else some { start, size }

theorem create?_eq_some_iff {m : MemoryReader} {start size : Nat} {w : Window} :
    create? m start size = some w ↔
      w = { start, size := if size = 0 then m.extent start else size } ∧ 0 < w.size ∧ w.size ≤ maxPosition ∧
        w.start + w.size < addressLimit := by
  unfold create?
  dsimp only
  generalize (if size = 0 then m.extent start else size) = length
  split
  · next refused =>
    simp only [reduceCtorEq, false_iff]
    rintro ⟨rfl, granted⟩
    dsimp only at granted
    omega
  · next granted =>
    rw [Option.some_inj, eq_comm]
    refine (and_iff_left_of_imp ?_).symm
    rintro rfl
    dsimp only
    omega

/-- Move in the window (`MemoryStream::seek`). -/
def seek (w : Window) (offset : Int) (whence : Whence) : Int × Window :=
  match landing w.pos w.size offset whence with
  | some target => (target, { w with pos := target })
  | none => (-1, w)

/-- Nothing at the end of the window; a failure where the window is not mapped (`MemoryStream::read`). -/
def read (m : MemoryReader) (n : Nat) (w : Window) : Transfer × Window :=
  let want := min n (w.size - w.pos)
  if want = 0 then (⟨0, []⟩, w)
  else
    match m.read (w.start + w.pos) want with
    | [] => (⟨-1, []⟩, w)
    | bs => (⟨bs.length, bs⟩, { w with pos := w.pos + bs.length })

/-- A window as a device of its own. -/
def device (m : MemoryReader) : Device Window where
  seek offset whence w := w.seek offset whence
  size w := w.size
  read n w := w.read m n

def describe (w : Window) : String :=
  "MemoryStream \x7b start: " ++ Text.hex w.start ++ ", size: " ++ toString w.size ++ ", pos: " ++
    toString w.pos ++ " \x7d"

end Window
end ScriptStreams
