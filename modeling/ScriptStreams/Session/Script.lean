import ScriptStreams.Session.FileStep
import ScriptStreams.Session.HandleStep
import ScriptStreams.Session.TableStep
/-!
# Session scripts

A script is a list of steps of all kinds. Running one gives for each step its answer and the
events logged meanwhile (`Session.run`); at the end the remaining handles are dropped in the byte
order of their names (`Session.finish`).
-/
namespace ScriptStreams

inductive SessionStep where
  | heap
  | windows
  | isLocked
  | pooled
  /-- The calls made by handles since they were last shown. -/
  | calls
  | describeHost
  | describeGuard
  | handle (name : String) (step : HandleStep)
  | table (step : TableStep)
  | memory (step : MemoryStep)
  | space (step : SpaceStep)
  | file (step : FileStep)
  | raw (name : String) (step : RawStep)
  /-- From now on other memory can be reserved. -/
  | allocator (a : Allocator)

/-- A step's answer and the events it logged, the oldest first. -/
structure StepRecord where
  answer : Answer
  events : List Event

/-- What is left of a session when all handles are dropped. -/
structure SessionEnd where
  stats : TableStats
  windows : Nat
  /-- Calls that close a created stream and calls that tear down an adapted one. -/
  releaseCalls : Option (Nat × Nat)
  /-- The events of the final drops, the oldest first. -/
  events : List Event

namespace Session

/-- Recorded calls on streams, the newest first. -/
def serviceCalls (s : Session) : List Call := s.world.calls.filter (·.primitive.isService)

def countCalls (s : Session) (p : Primitive) : Nat := s.world.calls.countP (·.primitive = p)

def showCalls (s : Session) : Answer × Session :=
  if s.showsCalls then
    let all := s.serviceCalls
    (.calls (all.take (all.length - s.shownCalls)).reverse, { s with shownCalls := all.length })
  else (.nothing, s)

/-- The events logged since the log was `older`, the oldest first. -/
def eventsSince (older newer : List Event) : List Event :=
  (newer.take (newer.length - older.length)).reverse

def step (s : Session) : SessionStep → Answer × Session
  | .heap => (.heap s.world.lock.heap, s)
  | .windows => (.number s.world.lock.windows, s)
  | .isLocked => (.flag s.world.lock.locked, s)
  | .pooled => (.number s.world.pool.count, s)
  | .calls => s.showCalls
  | .describeHost => (.text s.world.describeHost, s)
  | .describeGuard => (.text s.world.lock.describeGuard, s)
  | .handle name step => s.handleStep name step
  | .table step =>
    let (answer, w) := step.perform s.rawNames s.world
    (answer, { s with world := w })
  | .memory step =>
    let (answer, image) := step.perform s.world.env.image
    (answer, { s with world := { s.world with env := { s.world.env with image := image } } })
  | .space step =>
    let (answer, w) := step.perform s.world
    (answer, { s with world := w })
  | .file step =>
    let (answer, env) := step.perform s.world.env
    (answer, { s with world := { s.world with env := env } })
  | .raw name step => s.rawStep name step
  | .allocator a => (.nothing, { s with world := { s.world with allocator := a } })

def run (s : Session) : List SessionStep → List StepRecord × Session
  | [] => ([], s)
  | step :: rest =>
    let (answer, after) := s.step step
    let (records, final) := run after rest
    (⟨answer, eventsSince s.world.log after.world.log⟩ :: records, final)

/-- Drop the remaining handles and sum up. -/
def finish (s : Session) : SessionEnd :=
  let after := s.dropAll
  { stats := after.world.table.stats
    windows := after.world.lock.windows
    releaseCalls :=
      if s.showsCalls then some (after.countCalls .closeCreated, after.countCalls .teardownAdapted) else none
    events := eventsSince s.world.log after.world.log }

end Session
end ScriptStreams
