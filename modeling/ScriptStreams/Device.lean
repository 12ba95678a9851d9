import ScriptStreams.Bytes
/-!
# Devices and composite reads

A device is anything that can be repositioned, measured and read, over some state. Lines, strings,
single bytes and swapped quantities are read through these three operations alone, so they work
on every backing medium. `fill` builds a full read from a source that answers piecemeal.
-/
namespace ScriptStreams

/-- The reference point of a seek. -/
inductive Whence where
  | start | current | finish
  deriving DecidableEq

namespace Whence

def code : Whence → Int
  | .start => 0
  | .current => 1
  | .finish => 2

/-- The reference point that a script means by a number (`Whence::from_raw`). -/
def ofCode? (n : Int) : Option Whence :=
  if n = 0 then some .start else if n = 1 then some .current else if n = 2 then some .finish else none

/-- The position an offset counts from. -/
def base (pos size : Nat) : Whence → Nat
  | .start => 0
  | .current => pos
  | .finish => size

theorem ofCode?_code (w : Whence) : ofCode? w.code = some w := by cases w <;> rfl

theorem ofCode?_eq_some_iff (n : Int) (w : Whence) : ofCode? n = some w ↔ n = w.code := by
  refine ⟨fun h => ?_, fun h => h ▸ ofCode?_code w⟩
  unfold ofCode? at h
  repeat' split at h
  all_goals first | (cases h; assumption) | cases h

end Whence

/-- The largest stream position. -/
def maxPosition : Nat := UInt64.size / 2 - 1

/-- Where a seek lands, if that is a position at all (`seek_from` and `seek_io`). -/
def landing (pos size : Nat) (offset : Int) (whence : Whence) : Option Nat :=
  let target := (whence.base pos size : Int) + offset
  if 0 ≤ target ∧ target ≤ maxPosition then some target.toNat else none

/-- The result of a read: a byte count, or a negative code, and the bytes it put at the front of
the buffer. -/
structure Transfer where
  count : Int
  bytes : Bytes
  deriving DecidableEq

/-- A seekable source of bytes over states `σ` (`NativeStream`). A seek gives the new position or -1, a size is -1
when unknown. -/
structure Device (σ : Type) where
  seek : Int → Whence → σ → Int × σ
  size : σ → Int
  read : Nat → σ → Transfer × σ

variable {σ : Type}

/-! ## Full reads from piecemeal answers -/

/-- One answer to a request for bytes; no bytes means that the source has ended. -/
inductive Delivery where
  | bytes (bs : Bytes)
  | failure

/-- Ask until `want` bytes arrived, the source ended or it failed; the flag tells a failure.
Every answer that goes on delivers a byte, so `fuel = want` is enough. -/
def gather (ask : Nat → σ → Delivery × σ) : (fuel want : Nat) → σ → Bytes × Bool × σ
  | 0, _, s => ([], false, s)
  | fuel + 1, want, s =>
    if want = 0 then ([], false, s) else
    match ask want s with
    | (.failure, s) => ([], true, s)
    | (.bytes [], s) => ([], false, s)
    | (.bytes bs, s) =>
      let (rest, failed, s) := gather ask fuel (want - bs.length) s
      (bs ++ rest, failed, s)

/-- Read until `want` bytes are there or the source is exhausted. A failure counts only when
nothing arrived before it (`fill`). -/
def fill (ask : Nat → σ → Delivery × σ) (want : Nat) (s : σ) : Transfer × σ :=
  match gather ask want want s with
  | ([], true, s) => (⟨-1, []⟩, s)
  | (bs, _, s) => (⟨bs.length, bs⟩, s)

namespace Device

variable (d : Device σ)

/-- The position, asked for by a seek that moves nothing (`NativeStream::tell`). -/
def tell (s : σ) : Int × σ := d.seek 0 .current s

/-- Read over the front of `buffer`. -/
def readInto (buffer : Bytes) (s : σ) : (Int × Bytes) × σ :=
  let (t, s) := d.read buffer.length s
  ((t.count, Bytes.overlay buffer t.bytes), s)

/-! ## Composite reads -/

/-- One byte, if a read of one gives one (`next_byte`). -/
def nextByte (s : σ) : Option UInt8 × σ :=
  let (t, s) := d.read 1 s
  (if t.count = 1 then some (t.bytes.headD 0) else none, s)

/-- Bytes up to and including a line feed, at most `limit` of them. -/
def takeLine : (limit : Nat) → σ → Bytes × σ
  | 0, s => ([], s)
  | limit + 1, s =>
    match d.nextByte s with
    | (none, s) => ([], s)
    | (some b, s) =>
      if b = Bytes.newline then ([b], s)
      else
        let (rest, s) := takeLine limit s
        (b :: rest, s)

/-- Bytes before a NUL, at most `limit` of them, and whether any byte was consumed; the NUL is
consumed too. -/
def takeString : (limit : Nat) → σ → Bytes × Bool × σ
  | 0, s => ([], false, s)
  | limit + 1, s =>
    match d.nextByte s with
    | (none, s) => ([], false, s)
    | (some b, s) =>
      if b = 0 then ([], true, s)
      else
        let (rest, _, s) := takeString limit s
        (b :: rest, true, s)

/-- Read a line for a buffer of `n` bytes: what goes to its front, a NUL last, and whether there was a
byte (`read_line_into`). -/
def readLine (n : Nat) (s : σ) : (Bool × Bytes) × σ :=
  match n with
  | 0 => ((false, []), s)
  | limit + 1 =>
    let (line, s) := d.takeLine limit s
    ((!line.isEmpty, line ++ [0]), s)

/-- Read a NUL-terminated string for a buffer of `n` bytes, after seeking to `pos` unless it is -1: what
goes to its front, a NUL last. An empty string counts as read; false means that the seek failed
or no byte came (`read_cstring_into`). -/
def readCString (pos : Int) (n : Nat) (s : σ) : (Bool × Bytes) × σ :=
  match n with
  | 0 => ((false, []), s)
  | limit + 1 =>
    let (reached, s) := if pos = -1 then ((0 : Int), s) else d.seek pos .start s
    if reached < 0 then ((false, [0]), s)
    else
      let (string, consumed, s) := d.takeString limit s
      ((consumed, string ++ [0]), s)

/-- The sizes of the quantities that have a byte order. -/
def hasByteOrder (n : Nat) : Bool := n = 2 || n = 4 || n = 8

/-- Read `n` bytes and turn a whole quantity of the given byte order into little-endian order (`read_swapped_into`). -/
def readSwapped (bigEndian : Bool) (n : Nat) (s : σ) : Transfer × σ :=
  let (t, s) := d.read n s
  if bigEndian && t.count = n && hasByteOrder n then (⟨t.count, t.bytes.reverse⟩, s) else (t, s)

/-- Read until `want` bytes are there, tolerating short answers. Where an answer claims more bytes
than it put down there are zeros (`AddressSpace::read_full`). -/
def readFull : (fuel want : Nat) → σ → Bytes × σ
  | 0, _, s => ([], s)
  | fuel + 1, want, s =>
    if want = 0 then ([], s) else
    let (t, s) := d.read want s
    if t.count ≤ 0 then ([], s)
    else
      let got := min want t.count.toNat
      let chunk := t.bytes.take got ++ Bytes.zeros (got - t.bytes.length)
      let (rest, s) := readFull fuel (want - chunk.length) s
      (chunk ++ rest, s)

end Device
end ScriptStreams
