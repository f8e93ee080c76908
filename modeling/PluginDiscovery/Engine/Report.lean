/-!
# Reports to the host

What the engine tells the host about candidates it refuses. A host collects reports in memory or has
them written to the log.
-/

namespace PluginDiscovery

/-- Whether load failures are reported or passed over in silence. -/
inductive FailureMode where
  | silent
  | report
  deriving DecidableEq, Repr

namespace FailureMode

/-- The mode a switch stands for. -/
def ofVerbose (verbose : Bool) : FailureMode :=
  if verbose then .report else .silent

/-- Whether failures are reported. -/
def isVerbose (mode : FailureMode) : Bool :=
  mode == .report

end FailureMode

/-- How serious a report is: something odd but harmless, or something left out for a defect. -/
inductive Severity where
  | warning
  | failure
  deriving DecidableEq, Repr

/-- The name of a severity in data. -/
def Severity.name : Severity → String
  | .warning => "warning"
  | .failure => "failure"

/-- A reported message. -/
structure Report where
  severity : Severity
  message : String
  deriving DecidableEq, Repr

/-- The reports of a severity, in order. -/
def Report.select (reports : List Report) (severity : Severity) : List Report :=
  reports.filter fun r => r.severity = severity

/-- Where reports go. -/
inductive Reporter where
  | memory
  | log
  deriving DecidableEq, Repr

end PluginDiscovery
