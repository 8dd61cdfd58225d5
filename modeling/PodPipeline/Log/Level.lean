import PodPipeline.Text.Blank

/-! Levels of log events, and the level that a process logs at. -/
namespace PodPipeline

/-- The levels, from the gravest to the most detailed. -/
inductive Level where
  | error | warn | info | debug | trace
deriving DecidableEq, Repr

namespace Level

def text : Level → String
  | .error => "ERROR"
  | .warn => "WARN"
  | .info => "INFO"
  | .debug => "DEBUG"
  | .trace => "TRACE"

def detail : Level → Nat
  | .error => 0
  | .warn => 1
  | .info => 2
  | .debug => 3
  | .trace => 4

/-- The level that a text names, in letters of either case and between white space. The names are
ASCII, and no other letter has one of theirs as its small form. -/
def ofText? (s : String) : Option Level :=
  match String.ofList ((Text.trim s.toList).map Char.toLower) with
  | "error" => some .error
  | "warn" => some .warn
  | "warning" => some .warn
  | "info" => some .info
  | "debug" => some .debug
  | "trace" => some .trace
  | _ => none

/-- The level to log at: the one asked for, else the one that the environment names, else `info`. -/
def choose (asked : Option Level) (environment : Option String) : Level :=
  asked.getD ((environment.bind ofText?).getD .info)

def max (a b : Level) : Level := if a.detail < b.detail then b else a

end Level

/-- The logging of a process, which is set up at most once. -/
structure Logging where
  installed : Option Level := none

/-- Sets up logging; the second result tells whether it was not yet. The level at which a process
checks events is raised for an attempt that fails, too. -/
def Logging.init (l : Logging) (asked : Option Level) (environment : Option String) :
    Logging × Bool :=
  let level := Level.choose asked environment
  match l.installed with
  | none => (⟨some level⟩, true)
  | some before => (⟨some (before.max level)⟩, false)

end PodPipeline
