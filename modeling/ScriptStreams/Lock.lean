import ScriptStreams.Value
/-!
# The runtime lock

All script-visible work runs under one lock. It protects the heap counters, so values with a
payload are made through it (`HeapStats.newBytes`, `newText`, `newCapsule`). A call that may block
runs in a window: the lock is free while it runs and held again afterwards, and every window
is counted.
-/
namespace ScriptStreams

/-- Values made so far and the payload bytes handed over with them. -/
structure HeapStats where
  objects : Nat := 0
  bytes : Nat := 0
  deriving DecidableEq

namespace HeapStats

/-- Count one value (`RuntimeGuard::record_allocation`). -/
def record (h : HeapStats) (payload : Nat) : HeapStats := ⟨h.objects + 1, h.bytes + payload⟩

/-- A byte string (`RuntimeGuard::new_bytes`). -/
def newBytes (h : HeapStats) (data : Bytes) : Value × HeapStats := (.bytes data, h.record data.length)

/-- A text from bytes, ill-formed parts replaced; the replaced text is what counts (`RuntimeGuard::new_str`). -/
def newText (h : HeapStats) (data : Bytes) : Value × HeapStats :=
  let text := Text.ofBytesLossy data
  (.text text, h.record text.utf8ByteSize)

/-- A capsule, which counts by its tag (`RuntimeGuard::new_capsule`). -/
def newCapsule (h : HeapStats) (c : Capsule) : Value × HeapStats :=
  (.capsule c, h.record c.tag.utf8ByteSize)

def make (h : HeapStats) : Literal → Value × HeapStats
  | .none => (.none, h)
  | .bool b => (.bool b, h)
  | .int n => (.int n, h)
  | .bytes data => h.newBytes data
  | .text data => h.newText data
  | .capsule c => h.newCapsule c

def describe (h : HeapStats) : String :=
  "HeapStats \x7b objects: " ++ toString h.objects ++ ", bytes: " ++ toString h.bytes ++ " \x7d"

/-- The counters after `v` was made. -/
def charge (h : HeapStats) (v : Value) : HeapStats :=
  match v.payload? with
  | some n => h.record n
  | none => h

theorem make_snd (h : HeapStats) (l : Literal) : (h.make l).2 = h.charge (h.make l).1 := by
  cases l <;> rfl

end HeapStats

structure RuntimeLock where
  heap : HeapStats := {}
  /-- Windows opened so far. -/
  windows : Nat := 0
  locked : Bool := false
  deriving DecidableEq

namespace RuntimeLock

def describe (l : RuntimeLock) : String :=
  "RuntimeLock \x7b locked: " ++ toString l.locked ++ ", windows: " ++ toString l.windows ++ " \x7d"

/-- The text of a guard that holds the lock. -/
def describeGuard (l : RuntimeLock) : String := "RuntimeGuard \x7b heap: " ++ l.heap.describe ++ " \x7d"

/-- Take the lock (`RuntimeLock::acquire`). -/
def acquire (l : RuntimeLock) : RuntimeLock := { l with locked := true }

def release (l : RuntimeLock) : RuntimeLock := { l with locked := false }

/-- The holder hands the lock back for the length of one call (`RuntimeGuard::allow_threads`). -/
def openWindow (l : RuntimeLock) : RuntimeLock := { l with windows := l.windows + 1, locked := false }

end RuntimeLock
end ScriptStreams
