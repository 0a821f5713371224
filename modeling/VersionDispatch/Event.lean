import VersionDispatch.Text.Outline

/-!
# Events

What the parts of the library report while they work: a level, the part that speaks, and a
message. Which events are shown is told by a filter, which is read from a text.
-/

namespace VersionDispatch

inductive Level where
  | error
  | warn
  | info
  | debug
  | trace
  deriving DecidableEq

namespace Level

/-- Higher is more verbose. -/
def verbosity (level : Level) : Nat :=
  match level with
  | .error => 1
  | .warn => 2
  | .info => 3
  | .debug => 4
  | .trace => 5

def name (level : Level) : String :=
  match level with
  | .error => "ERROR"
  | .warn => "WARN"
  | .info => "INFO"
  | .debug => "DEBUG"
  | .trace => "TRACE"

end Level

structure Event where
  level : Level
  target : String
  message : String
  deriving DecidableEq

/-- Which events are shown. -/
abbrev EventFilter := Event → Bool

/-- Why no filter comes of a text. -/
inductive FilterStop where
  | fault
  /-- Reading breaks off, and with it whatever has asked for the filter. -/
  | crash
  deriving DecidableEq

/-- How filters are read. -/
structure FilterReader where
  /-- Reads a text that must not have a fault. -/
  strict : String → Except FilterStop EventFilter
  /-- Reads a text and leaves out what has a fault. What is said about that comes first; there is
  no filter if reading breaks off. -/
  lenient : String → List String × Option EventFilter

namespace FilterReader

/-- The filter of the environment goes before that of another text, unless it has a fault. -/
def choose (reader : FilterReader) (environment : Option String) (text : String) :
    List String × Option EventFilter :=
  match environment.map reader.strict with
  | some (.ok filter) => ([], some filter)
  | some (.error .crash) => ([], none)
  | some (.error .fault) => reader.lenient text
  | none => reader.lenient text

/-- Reading does not break off. -/
def Returns (reader : FilterReader) (environment : Option String) (text : String) : Prop :=
  (reader.choose environment text).2.isSome = true

end FilterReader

/-- A version that may be unknown, as messages show it. -/
def showVersion (version : Option String) : String :=
  (Text.Outline.option (version.map Text.Outline.text)).inline

end VersionDispatch
