import HttpEngine.Stream.ChunkSink

/-!
# Chunk producers

A producer is the script that a response runs on its sink once the body is
written.  A script stops at its first step that fails.
-/

namespace HttpEngine

inductive ProducerStep where
  | write (bytes : Bytes)
  | flush
  | fail (message : String)
  /-- Leaves a note for whoever watches the producer. -/
  | note (text : String)
  deriving DecidableEq, Repr

/-- What becomes of the sink when the script is over. -/
inductive ProducerEnd where
  /-- Closed after a script without a failure, dropped after one with. -/
  | closeOnSuccess
  | close
  | drop
  deriving DecidableEq, Repr

structure Producer where
  steps : List ProducerStep
  ending : ProducerEnd
  deriving DecidableEq, Repr

/-- A run of a producer: its sink, whether all went well so far, and
its notes. -/
structure Production where
  outlet : Outlet String
  failure : Option String
  notes : List String

namespace Producer

def runStep (run : Production) : ProducerStep → Production
  | .write bytes =>
      let (outlet, taken) := run.outlet.writeAll bytes
      { run with
        outlet := outlet
        failure := if taken then none else some Outlet.disconnectedMessage }
  | .flush =>
      let (outlet, taken) := run.outlet.flush
      { run with
        outlet := outlet
        failure := if taken then none else some Outlet.disconnectedMessage }
  | .fail message => { run with failure := some message }
  | .note text => { run with notes := run.notes ++ [text] }

def runSteps (run : Production) : List ProducerStep → Production
  | [] => run
  | step :: rest =>
      let next := runStep run step
      if next.failure.isSome then next else runSteps next rest

def finish (run : Production) : ProducerEnd → Production
  | .drop => { run with outlet := run.outlet.drop }
  | .close => { run with outlet := run.outlet.close.1 }
  | .closeOnSuccess =>
      if run.failure.isSome then { run with outlet := run.outlet.drop }
      else
        let (outlet, taken) := run.outlet.close
        { run with
          outlet := outlet
          failure := if taken then none else some Outlet.disconnectedMessage }

/-- Runs the script on a fresh sink. -/
def run (producer : Producer) (capacity : Nat) (peer : Peer) : Production :=
  finish (runSteps ⟨.new capacity peer, none, []⟩ producer.steps)
    producer.ending

end Producer

end HttpEngine
