import Callpoint.Signal

/-!
# Observers

Observers are told of every signal in the order in which they were added.  An observer that fails
does not keep the signal from the others.  The logging observer turns a signal into a log line and a
step of a counter.
-/

namespace Callpoint

/-- **Something that watches calls.** It takes notice or fails. -/
inductive Observer where
  | recording
  | failing
deriving DecidableEq, Repr

namespace Observer

/-- What the observers see of one signal, each with its place among them. -/
def emit (observers : List Observer) (n : Notice) : List (Nat × Notice) :=
  observers.zipIdx.filterMap fun (o, i) =>
    match o with
    | .recording => some (i, n)
    | .failing => none

/-- What the observers see of several signals of one endpoint. -/
def emitAll (observers : List Observer) (endpoint : String) (signals : List Signal) :
    List (Nat × Notice) :=
  signals.flatMap fun s => emit observers ⟨endpoint, s⟩

/-- Observers as they are shown to people, by their number. -/
def inspectAll (observers : List Observer) : String :=
  "Observers \x7b len: " ++ toString observers.length ++ " \x7d"

end Observer

/-! ### Logs and metrics -/

/-- **A line of the log.** -/
structure LogLine where
  severity : Severity
  endpoint : String
  signal : String
  message : String
deriving DecidableEq, Repr

/-- **What is sent to the metrics system:** a description of a counter or a step of it. -/
inductive Metric where
  | describe (name text : String)
  | increment (name : String) (labels : List (String × String)) (step : Nat)
deriving DecidableEq, Repr

namespace Telemetry

/-- The counter of signals. -/
def signalCounter : String := "daedalus_pipeline_signals_total"

/-- The description of the counter. -/
def describeMetrics : List Metric :=
  [.describe signalCounter "Pipeline signals by endpoint and signal name"]

/-- The log line of a signal. -/
def logLine (n : Notice) : LogLine :=
  ⟨n.signal.severity, n.endpoint, n.signal.name, n.signal.message⟩

/-- The step of the counter for a signal. -/
def metric (n : Notice) : Metric :=
  .increment signalCounter [("endpoint", n.endpoint), ("signal", n.signal.name)] 1

end Telemetry

end Callpoint
