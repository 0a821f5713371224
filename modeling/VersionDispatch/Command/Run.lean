import VersionDispatch.Command.Arguments
import VersionDispatch.Dispatch.Registry
import VersionDispatch.Event
import VersionDispatch.GateTable

/-!
# Running a command

Each command comes to a conclusion and leaves events behind. Whatever it reads, the content of
its gate table included, is given to it, so that it is a function.
-/

namespace VersionDispatch.Command

structure Report where
  status : Nat
  stdout : String
  stderr : String
  deriving DecidableEq

inductive Conclusion where
  /-- A line is printed; the status tells whether it is a good answer. -/
  | answer (line : String) (success : Bool)
  /-- No entry handles the version; only the message is shown. -/
  | turnedDown (message : String)
  | failure (message : String) (causes : List String)
  /-- The command breaks off, for it looked something up that is not there. -/
  | crash
  deriving DecidableEq

/-- Indents all lines of a text but the first. -/
def hang (margin : String) (text : String) : String :=
  String.ofList (text.toList.flatMap fun c => if c = '\n' then '\n' :: margin.toList else [c])

def causesText (causes : List String) : String :=
  match causes with
  | [] => ""
  | [cause] => "\n\nCaused by:\n    " ++ hang "    " cause
  | causes =>
      "\n\nCaused by:" ++ String.join (causes.zipIdx.map fun (cause, n) =>
        let number := toString n
        "\n" ++ String.ofList (List.replicate (5 - number.length) ' ') ++ number ++ ": " ++
          hang "       " cause)

/-- How a character of a message is written in a log: those that a terminal could take for a
command to itself are written by their code. -/
def logChar (c : Char) : List Char :=
  match c with
  | '\x07' => ['\\', 'x', '0', '7']
  | '\x08' => ['\\', 'x', '0', '8']
  | '\x0c' => ['\\', 'x', '0', 'c']
  | '\x1b' => ['\\', 'x', '1', 'b']
  | '\x7f' => ['\\', 'x', '7', 'f']
  | c =>
      if 0x80 ≤ c.toNat && c.toNat ≤ 0x9f then
        ['\\', 'u', '\x7b'] ++ Nat.toDigits 16 c.toNat ++ ['\x7d']
      else [c]

def logLine (event : Event) : String :=
  event.level.name ++ " " ++ event.target ++ ": " ++
    String.ofList (event.message.toList.flatMap logChar)

/-- The report of a conclusion, after lines that were shown before it. -/
def Conclusion.report (conclusion : Conclusion) (notes : List String) : Report :=
  let shown := String.join (notes.map fun note => note ++ "\n")
  match conclusion with
  | .answer line success => ⟨if success then 0 else 1, line ++ "\n", shown⟩
  | .turnedDown message => ⟨1, "", shown ++ message ++ "\n"⟩
  | .failure message causes =>
      ⟨1, "", shown ++ "Error: " ++ message ++ causesText causes ++ "\n"⟩
  | .crash => ⟨101, "", shown⟩

def testVersion (criteria : String) (version : Option String) : Conclusion :=
  match Criteria.parse criteria with
  | .error e => .failure e.message []
  | .ok c => .answer (if c.acceptsText version then "true" else "false") (c.acceptsText version)

def orderSymbol (order : Ordering) : String :=
  match order with
  | .lt => "<"
  | .eq => "="
  | .gt => ">"

def compareVersions (a b : String) : Conclusion :=
  .answer (orderSymbol (compare (Version.parse a) (Version.parse b))) true

/-- One offer for each criteria: its place in the list. -/
def offersOf (key : DispatchKey) (criteria : List Criteria) : List (Registration Nat) :=
  criteria.zipIdx.map fun (c, index) => ⟨key, c, index⟩

def counted (count : Nat) (key : String) : Event where
  level := .info
  target := "versioncheck"
  message := toString count ++ " candidates for " ++ key

/-- Tells which expression under a key handles a version, and what happened on the way. -/
def resolveKey (table : GateTable) (key : String) (version : Option String) :
    List Event × Conclusion :=
  match table.criteria key with
  | .error e => ([], .failure (LoadFault.gate e).message [(LoadFault.gate e).cause])
  | .ok criteria =>
      let dispatchKey := DispatchKey.ofPath key
      let offers := offersOf dispatchKey criteria
      let registry := Registry.empty.registerAll offers
      let events := offers.map Registry.registered ++
        counted (registry.candidates dispatchKey).length key ::
          registry.resolved dispatchKey version
      match registry.resolve dispatchKey version with
      | .ok index =>
          match table.expressionAt? key index with
          | some expr => (events, .answer ("#" ++ toString index ++ " " ++ expr) true)
          | none => (events, .crash)
      | .error (.unsupported target version) =>
          (events, .turnedDown (Refusal.unsupported target version).message)
      | .error e => (events, .failure e.message [])

/-- What the filter is read from when the environment has none. -/
def filterText (verbose : Bool) (table : GateTable) : String :=
  if verbose then "info" else table.logFilter

def Request.carryOut (request : Request) (table : GateTable) : List Event × Conclusion :=
  match request with
  | .test criteria version => ([], testVersion criteria version)
  | .compare a b => ([], compareVersions a b)
  | .resolve _ key version => resolveKey table key version

namespace Invocation

def file? (invocation : Invocation) : Option String :=
  match invocation.request with
  | .resolve path _ _ => some path
  | _ => none

/-- Reads the filter and carries the request out. Nothing is carried out if reading breaks off. -/
def runWith (invocation : Invocation) (reader : FilterReader) (environment : Option String)
    (table : GateTable) : Report :=
  match reader.choose environment (filterText invocation.verbose table) with
  | (notes, none) => Conclusion.crash.report notes
  | (notes, some filter) =>
      let (events, conclusion) := invocation.request.carryOut table
      conclusion.report (notes ++ (events.filter filter).map logLine)

/-- Runs a command; one that wants a gate table loads it from the content of its file. -/
def run (invocation : Invocation) (reader : FilterReader) (environment : Option String)
    (content : String → Except ReadFault ByteArray) : Report :=
  match invocation.file? with
  | none => invocation.runWith reader environment .empty
  | some path =>
      match GateTable.loadFile path (content path) with
      | .ok table => invocation.runWith reader environment table
      | .error e =>
          (Conclusion.failure ("Failed to load config " ++ Text.quoted path)
            [e.message, e.cause]).report []

end Invocation

def usage : String :=
  "Usage: versioncheck [-v] test <CRITERIA> [VERSION]\n" ++
  "       versioncheck [-v] compare <A> <B>\n" ++
  "       versioncheck [-v] resolve --config <CONFIG> <KEY> [VERSION]\n"

def CommandLine.run (line : CommandLine) (reader : FilterReader) (environment : Option String)
    (content : String → Except ReadFault ByteArray) : Report :=
  match line with
  | .invocation command => command.run reader environment content
  | .showVersion => ⟨0, "versioncheck 0.1.0\n", ""⟩
  | .misuse => ⟨2, "", usage⟩

end VersionDispatch.Command
