import PacketLog.Failure.IoError
import PacketLog.Text.Bytes

/-! # Sinks that take bytes as they please

A `Sink` receives bytes in write calls. Its plan says how the coming calls are answered: some bytes
are accepted, the call fails, or the receiver breaks down. Once the plan is used up everything is
accepted. `Sink.writeAll` repeats calls until nothing is left, and `Sink.stream` hands over a whole
byte string in chunks of at most `chunkSize`.
-/

namespace PacketLog

/-- How a sink answers one write call. -/
inductive SinkTurn
  | upTo (limit : Nat)
  | fail (error : IoError)
  | crash
  deriving DecidableEq, Repr

/-- A receiver of bytes: the answers planned for the coming write calls, and all bytes accepted. -/
structure Sink where
  plan : List SinkTurn
  received : Bytes
  deriving DecidableEq, Repr

/-- How handing bytes to a sink ended. -/
inductive Handover
  | complete
  | failed (error : IoError)
  | crashed
  deriving DecidableEq, Repr

namespace Sink

/-- The most bytes handed over in one piece. -/
def chunkSize : Nat := 8192

/-- Writes until every byte is accepted. A call that accepts nothing is a failure; an interrupted
one is repeated. -/
def writeAll (plan : List SinkTurn) (received data : Bytes) : Handover × Sink :=
  match plan with
  | [] => (.complete, ⟨[], received ++ data⟩)
  | turn :: rest =>
      if data = [] then (.complete, ⟨turn :: rest, received⟩)
      else
        match turn with
        | .upTo 0 => (.failed .wroteNothing, ⟨rest, received⟩)
        | .upTo limit => writeAll rest (received ++ data.take limit) (data.drop limit)
        | .fail error =>
            if error.isInterrupted then writeAll rest received data
            else (.failed error, ⟨rest, received⟩)
        | .crash => (.crashed, ⟨rest, received⟩)

/-- Hands over a byte string chunk by chunk. A sink without a plan takes what remains as it is. -/
def stream (sink : Sink) (contents : Bytes) : Handover × Sink :=
  if _finished : sink.plan = [] ∨ contents = [] then
    (.complete, { sink with received := sink.received ++ contents })
  else
    match writeAll sink.plan sink.received (contents.take chunkSize) with
    | (.complete, next) => next.stream (contents.drop chunkSize)
    | (ending, next) => (ending, next)
termination_by contents.length
decreasing_by
  have := List.length_pos_iff.2 (fun empty => _finished (.inr empty))
  have : 0 < chunkSize := by decide
  simp only [List.length_drop]
  omega

end Sink

end PacketLog
