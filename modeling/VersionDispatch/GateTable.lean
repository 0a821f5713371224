import VersionDispatch.Criteria.Basic
import VersionDispatch.Json.Decode
import VersionDispatch.Table

/-!
# Gate tables

A gate table lists criteria expressions under paths of dispatch keys, and says what is to be
logged. In a sound table every expression is a criteria.
-/

namespace VersionDispatch

structure GateTable where
  /-- The expressions under each path, in the order in which they are registered. -/
  gates : Table String (List String)
  logFilter : String

structure GateFault where
  path : String
  fault : CriteriaFault
  deriving DecidableEq

namespace GateTable

/-- No gates; warnings and errors are logged. -/
def empty : GateTable := ⟨∅, "warn"⟩

/-- The expressions under a path; none if the table does not have it. -/
def expressions (table : GateTable) (path : String) : List String :=
  (table.gates.get? path).getD []

/-- The expression at a place under a path. -/
def expressionAt? (table : GateTable) (path : String) (index : Nat) : Option String :=
  (table.gates.get? path).bind fun exprs => exprs[index]?

/-- Reads the expressions under a path, up to the first that is no criteria. -/
def criteria (table : GateTable) (path : String) : Except GateFault (List Criteria) :=
  (table.expressions path).mapM fun expr => (Criteria.parse expr).mapError (GateFault.mk path)

def checkAll (table : GateTable) : Except GateFault Unit :=
  table.gates.keys.forM fun path => (table.criteria path).map fun _ => ()

/-- The order of the paths does not count, that of the expressions does. -/
instance : BEq GateTable where
  beq a b := a.gates.sameEntries b.gates && a.logFilter == b.logFilter

def outline (table : GateTable) : Text.Outline :=
  .record "CheckConfig"
    [("gates", .map (table.gates.entries.map fun (path, exprs) =>
        (path, .list (exprs.map Text.Outline.text)))),
      ("log", .record "LogConfig" [("level", .text table.logFilter)] false)] false

end GateTable

inductive ReadFault where
  | notFound
  | isDirectory
  | notDirectory
  | nameTooLong
  | nulInName
  | notText
  | other (message : String)
  deriving DecidableEq

def ReadFault.message (fault : ReadFault) : String :=
  match fault with
  | .notFound => "No such file or directory (os error 2)"
  | .isDirectory => "Is a directory (os error 21)"
  | .notDirectory => "Not a directory (os error 20)"
  | .nameTooLong => "File name too long (os error 36)"
  | .nulInName => "file name contained an unexpected NUL byte"
  | .notText => "stream did not contain valid UTF-8"
  | .other message => message

inductive LoadFault where
  | file (path : String) (fault : ReadFault)
  | json (fault : Json.Fault)
  | gate (fault : GateFault)
  deriving DecidableEq

namespace LoadFault

def cause (e : LoadFault) : String :=
  match e with
  | .file _ fault => fault.message
  | .json fault => fault.message
  | .gate fault => fault.fault.message

def message (e : LoadFault) : String :=
  match e with
  | .file path _ => "Failed to read " ++ Text.quoted path ++ ": " ++ e.cause
  | .json _ => "Invalid config: " ++ e.cause
  | .gate fault => "Invalid criteria for " ++ fault.path ++ ": " ++ e.cause

end LoadFault

namespace GateTable

/-- A table of which some fields may not have come yet. -/
structure Draft where
  gates : Option (Table String (List String))
  logFilter : Option String

def levelField : Json.RecordField (Option String) :=
  ⟨"level", Option.isSome, fun node _ => some <$> node.text⟩

/-- The level in the log settings, which have no other field. -/
def logFilterOf (node : Json.Node) : Except Json.Fault String := do
  return (← node.record [levelField] none).getD empty.logFilter

def fields : List (Json.RecordField Draft) :=
  [⟨"gates", fun draft => draft.gates.isSome, fun node draft => do
      return { draft with gates := some (← node.tableOf (Json.Node.listOf Json.Node.text)) }⟩,
    ⟨"log", fun draft => draft.logFilter.isSome, fun node draft => do
      return { draft with logFilter := some (← logFilterOf node) }⟩]

/-- Fields that do not come are as in the empty table. -/
def ofNode (node : Json.Node) : Except Json.Fault GateTable := do
  let draft ← node.record fields ⟨none, none⟩
  return ⟨draft.gates.getD empty.gates, draft.logFilter.getD empty.logFilter⟩

/-- Reads a table and leaves its expressions unread. -/
def ofJson (text : String) : Except Json.Fault GateTable := Json.decode ofNode text

/-- Reads a table and finds it sound. -/
def load (text : String) : Except LoadFault GateTable := do
  let table ← (ofJson text).mapError .json
  table.checkAll.mapError .gate
  return table

def loadFile (path : String) (content : Except ReadFault ByteArray) :
    Except LoadFault GateTable := do
  let bytes ← content.mapError (.file path)
  match String.fromUTF8? bytes with
  | some text => load text
  | none => .error (.file path .notText)

end GateTable

end VersionDispatch
