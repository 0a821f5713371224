import VersionDispatch.Command.Directive

namespace VersionDispatch

structure LogFilter where
  directives : List Directive
  deriving DecidableEq

namespace LogFilter

/-- The directives as they are written, the empty ones left out. -/
def parts (s : String) : List (List Char) :=
  (s.toList.splitOn ',').filter fun part => !part.isEmpty

/-- Reads a filter up to the first directive that is not read. -/
def parse (s : String) : Except DirectiveStop LogFilter :=
  ((parts s).mapM Directive.read).map LogFilter.mk

/-- Reads directives one after the other. The ones with a fault are told apart from the others;
there are no others if reading breaks off. -/
def readValid : List (List Char) → List (String × DirectiveFault) × Option (List Directive)
  | [] => ([], some [])
  | part :: parts =>
      match Directive.read part with
      | .error .crash => ([], none)
      | .error (.fault fault) =>
          let (faults, directives) := readValid parts
          ((String.ofList part, fault) :: faults, directives)
      | .ok d =>
          let (faults, directives) := readValid parts
          (faults, directives.map (d :: ·))

/-- The best directive so far or, if it is as specific, another one. -/
def better (best : Option Directive) (d : Directive) : Option Directive :=
  if best.all d.asSpecificAs then some d else best

def directiveFor? (filter : LogFilter) (event : Event) : Option Directive :=
  (filter.directives.filter fun d => d.selects event).foldl better none

def shows (filter : LogFilter) (event : Event) : Bool :=
  (filter.directiveFor? event).any fun d => d.shows event

def ignoredNote (directive : String) (fault : DirectiveFault) : String :=
  "ignoring \x60" ++ directive ++ "\x60: " ++ fault.message

/-- The reader of log filters. -/
def reader : FilterReader where
  strict s :=
    match parse s with
    | .ok filter => .ok filter.shows
    | .error (.fault _) => .error .fault
    | .error .crash => .error .crash
  lenient s :=
    let (faults, directives) := readValid (parts s)
    (faults.map fun (directive, fault) => ignoredNote directive fault,
      directives.map fun directives => (LogFilter.mk directives).shows)

end LogFilter

end VersionDispatch
