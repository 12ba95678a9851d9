import ScriptStreams.Device
/-!
# A byte string read from a position

`Cursor` is what a stream over fixed bytes amounts to: the bytes and a position, moved by seeks and by
reads that take what there is. As a device it reads lines up to a line feed and strings up to a NUL
(`Cursor.through`), which is what the composite reads come to (`takeLine_eq`, `takeString_eq`).
-/
namespace ScriptStreams

structure Cursor where
  content : Bytes
  pos : Nat
  deriving DecidableEq

namespace Cursor

/-- The bytes from the position on; none at the end or behind it. -/
def rest (c : Cursor) : Bytes := c.content.drop c.pos

def advance (c : Cursor) (n : Nat) : Cursor := { c with pos := c.pos + n }

/-- Where an offset counts from. -/
def base (c : Cursor) : Whence → Nat
  | .start => 0
  | .current => c.pos
  | .finish => c.content.length

/-- Move to an offset from a base, if that is a position at all; else -1, and nothing moves. -/
def seek (offset : Int) (whence : Whence) (c : Cursor) : Int × Cursor :=
  let target := c.base whence + offset
  if 0 ≤ target ∧ target ≤ 0x7fffffffffffffff then (target, { c with pos := target.toNat }) else (-1, c)

/-- Up to `n` bytes. -/
def take (n : Nat) (c : Cursor) : Bytes × Cursor := (c.rest.take n, c.advance (c.rest.take n).length)

def device : Device Cursor where
  seek := seek
  size c := c.content.length
  read n c := (⟨(c.take n).1.length, (c.take n).1⟩, (c.take n).2)

/-- The bytes through the first `last`, all of them if there is none. -/
def through (last : UInt8) (bs : Bytes) : Bytes := bs.takeWhile (· ≠ last) ++ (bs.dropWhile (· ≠ last)).take 1

/-! ## Small laws -/

theorem rest_advance (c : Cursor) (n : Nat) : (c.advance n).rest = c.rest.drop n := by simp [rest, advance]

theorem advance_advance (c : Cursor) (m n : Nat) : (c.advance m).advance n = c.advance (m + n) := by
  simp [advance, Nat.add_assoc]

theorem advance_zero (c : Cursor) : c.advance 0 = c := rfl

theorem through_nil (last : UInt8) : through last [] = [] := rfl

theorem through_cons (last b : UInt8) (bs : Bytes) :
    through last (b :: bs) = if b = last then [b] else b :: through last bs := by
  by_cases h : b = last <;> simp [through, h]

theorem take_through_cons (last b : UInt8) (bs : Bytes) (n : Nat) :
    (through last (b :: bs)).take (n + 1) = if b = last then [b] else b :: (through last bs).take n := by
  rw [through_cons]
  split <;> simp

/-! ## Composite reads -/

theorem nextByte_of_nil {c : Cursor} (h : c.rest = []) : device.nextByte c = (none, c) := by
  simp [Device.nextByte, device, take, h, advance_zero]

theorem nextByte_of_cons {c : Cursor} {b : UInt8} {bs : Bytes} (h : c.rest = b :: bs) :
    device.nextByte c = (some b, c.advance 1) := by
  simp [Device.nextByte, device, take, h]

/-- **A line** is what leads through the next line feed, cut off at the limit. -/
theorem takeLine_eq (limit : Nat) (c : Cursor) :
    device.takeLine limit c =
      ((through Bytes.newline c.rest).take limit, c.advance ((through Bytes.newline c.rest).take limit).length) := by
  induction limit generalizing c with
  | zero => simp [Device.takeLine, advance_zero]
  | succ limit ih =>
    rw [Device.takeLine]
    cases hr : c.rest with
    | nil => simp [nextByte_of_nil hr, through_nil, advance_zero]
    | cons b bs =>
      have later : (c.advance 1).rest = bs := by simp [rest_advance, hr]
      simp only [nextByte_of_cons hr, take_through_cons, ih, later]
      split
      · rfl
      · simp only [advance_advance, List.length_cons, Nat.add_comm]

/-- **A string** is what comes before the next NUL, cut off at the limit; the NUL goes with it if it was
reached. -/
theorem takeString_eq (limit : Nat) (c : Cursor) :
    device.takeString limit c =
      (Bytes.untilNul ((through 0 c.rest).take limit), !((through 0 c.rest).take limit).isEmpty,
        c.advance ((through 0 c.rest).take limit).length) := by
  induction limit generalizing c with
  | zero => simp [Device.takeString, advance_zero, Bytes.untilNul]
  | succ limit ih =>
    rw [Device.takeString]
    cases hr : c.rest with
    | nil => simp [nextByte_of_nil hr, through_nil, advance_zero, Bytes.untilNul]
    | cons b bs =>
      have later : (c.advance 1).rest = bs := by simp [rest_advance, hr]
      simp only [nextByte_of_cons hr, take_through_cons, ih, later]
      split
      · next hb => simp [hb, Bytes.untilNul]
      · next hb => simp [Bytes.untilNul_cons, hb, advance_advance, Nat.add_comm]

end Cursor
end ScriptStreams
