import ScriptStreams.Keyed
import ScriptStreams.Scratch
/-!
# Scripts of scratch steps

A pool and the buffers held from it under names. Every buffer taken from the pool is held or was dropped,
and dropping is what returns it to the pool.
-/
namespace ScriptStreams.Scratch

structure Shelf where
  pool : Pool := {}
  allocator : Allocator := .ample
  buffers : Keyed String Buffer := []

inductive ShelfStep where
  | acquire (name : String) (n ceiling : Nat)
  | fill (name : String) (byte : UInt8)
  | describe (name : String)
  | drop (name : String)
  /-- Give the kept buffers up (`clear_pool`). -/
  | clear

/-- What a step on a shelf answers. -/
inductive ShelfAnswer where
  | done
  | granted (b : Buffer)
  | refused (r : Refusal)
  | filled (bytes : Bytes)
  | text (s : String)
  | flag (b : Bool)
  /-- No buffer has the name. -/
  | unknown

namespace Shelf

def drop (s : Shelf) (name : String) : Shelf :=
  match s.buffers.get? name with
  | some b => { s with pool := s.pool.release b, buffers := s.buffers.erase name }
  | none => s

/-- Hold a buffer under a name; the one that had the name is dropped. -/
def hold (s : Shelf) (name : String) (b : Buffer) : Shelf :=
  let s := s.drop name
  { s with buffers := s.buffers.set name b }

def step (s : Shelf) : ShelfStep → ShelfAnswer × Shelf
  | .acquire name n ceiling =>
    match s.pool.acquire s.allocator n ceiling with
    | (.ok b, pool) => (.granted b, { s with pool := pool }.hold name b)
    | (.error r, pool) => (.refused r, { s with pool := pool })
  | .fill name byte =>
    match s.buffers.get? name with
    | some b =>
      let b := b.write (List.replicate b.length byte)
      (.filled b.bytes, { s with buffers := s.buffers.set name b })
    | none => (.unknown, s)
  | .describe name =>
    match s.buffers.get? name with
    | some b => (.text b.describe, s)
    | none => (.unknown, s)
  | .drop name => (.flag (s.buffers.contains name), s.drop name)
  | .clear => (.done, { s with pool := {} })

/-- Each step's answer with the number of buffers in the pool after it. -/
def run (s : Shelf) : List ShelfStep → List (ShelfAnswer × Nat) × Shelf
  | [] => ([], s)
  | step :: rest =>
    let (answer, s) := s.step step
    let (answers, final) := run s rest
    ((answer, s.pool.count) :: answers, final)

end Shelf
end ScriptStreams.Scratch
