/-!
# Log events

The events that streams and handles log, each with its level and its message.
-/
namespace ScriptStreams

inductive LogLevel where
  | trace | debug | warn
  deriving DecidableEq

def LogLevel.name : LogLevel → String
  | .trace => "TRACE"
  | .debug => "DEBUG"
  | .warn => "WARN"

inductive Event where
  | windowOpened
  | scratchRefused
  | releasedOnDrop
  | streamRegistered
  | streamClosed
  | adaptationTornDown
  | noRemoteRoot
  | openFailed
  | noMemory
  | rawHandleAdapted
  | inputOpened
  | memoryInputOpened
  | wrongOrigin
  | unknownStream
  | invertedRange
  | seekFailed
  | pastEnd
  | cannotAllocate
  | readFailed
  deriving DecidableEq

namespace Event

def level : Event → LogLevel
  | windowOpened | scratchRefused | releasedOnDrop => .trace
  | streamRegistered | streamClosed | adaptationTornDown | noRemoteRoot | openFailed | noMemory
  | rawHandleAdapted | inputOpened | memoryInputOpened => .debug
  | wrongOrigin | unknownStream | invertedRange | seekFailed | pastEnd | cannotAllocate
  | readFailed => .warn

def message : Event → String
  | windowOpened => "runtime lock released for a blocking call"
  | scratchRefused => "scratch acquisition failed"
  | releasedOnDrop => "releasing stream on drop without a lock window"
  | streamRegistered => "stream registered"
  | streamClosed => "stream closed"
  | adaptationTornDown => "adapted stream torn down"
  | noRemoteRoot => "remote open without a remote root"
  | openFailed => "open failed"
  | noMemory => "no memory reader configured"
  | rawHandleAdapted => "adapted raw handle"
  | inputOpened => "input opened"
  | memoryInputOpened => "memory input opened"
  | wrongOrigin => "release refused: stream has a different origin"
  | unknownStream => "release of unknown stream ignored"
  | invertedRange => "inverted address range"
  | seekFailed => "cannot seek to file position"
  | pastEnd => "range extends past end of stream"
  | cannotAllocate => "cannot allocate range"
  | readFailed => "read error while loading range"

end Event
end ScriptStreams
