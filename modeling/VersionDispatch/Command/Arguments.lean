/-!
# Command line arguments

Three commands, each with its arguments and options. Options may stand anywhere before a double
hyphen, single letters may be run together, and the value of an option may be joined to it. What
is not understood, or is missing, or comes twice, is a misuse.
-/

namespace VersionDispatch.Command

inductive Request where
  /-- Does a criteria accept a version? Without one, an unknown version. -/
  | test (criteria : String) (version : Option String)
  | compare (a b : String)
  /-- Which entry under a key of a gate table handles a version? -/
  | resolve (config key : String) (version : Option String)
  deriving DecidableEq

structure Invocation where
  verbose : Bool
  request : Request
  deriving DecidableEq

inductive CommandLine where
  | invocation (invocation : Invocation)
  | showVersion
  | misuse
  deriving DecidableEq

inductive Subcommand where
  | test
  | compare
  | resolve
  deriving DecidableEq

def Subcommand.ofName? (name : String) : Option Subcommand :=
  match name with
  | "test" => some .test
  | "compare" => some .compare
  | "resolve" => some .resolve
  | _ => none

/-- An argument by its looks. A single hyphen is a plain word. -/
inductive Argument where
  | word (text : String)
  /-- A double hyphen alone: what follows is words. -/
  | endOfOptions
  | long (name : String) (value : Option String)
  | short (letters : List Char)

def Argument.ofString (arg : String) : Argument :=
  match arg.toList with
  | ['-', '-'] => .endOfOptions
  | '-' :: '-' :: rest =>
      let name := String.ofList (rest.takeWhile (· != '='))
      match rest.dropWhile (· != '=') with
      | [] => .long name none
      | _ :: value => .long name (some (String.ofList value))
  | '-' :: letter :: letters => .short (letter :: letters)
  | _ => .word arg

/-- What the arguments after a subcommand have given so far. -/
structure Given where
  verbose : Bool
  config : Option String
  /-- The last option wants its value from the next argument. -/
  awaitsConfig : Bool
  words : List String

namespace Given

def start : Given := ⟨false, none, false, []⟩

def setVerbose? (given : Given) : Option Given :=
  if given.verbose then none else some { given with verbose := true }

def setConfig? (given : Given) (value : String) : Option Given :=
  if value.isEmpty || given.config.isSome then none
  else some { given with config := some value, awaitsConfig := false }

def awaitConfig? (given : Given) : Option Given :=
  if given.config.isSome then none else some { given with awaitsConfig := true }

/-- Takes in a run of letters; a letter that takes a value takes the rest of the run. -/
def letters? (command : Subcommand) (given : Given) : List Char → Option Given
  | [] => some given
  | 'v' :: letters => given.setVerbose?.bind fun given => given.letters? command letters
  | 'c' :: letters =>
      if command = .resolve then
        match letters with
        | [] => given.awaitConfig?
        | '=' :: value => given.setConfig? (String.ofList value)
        | value => given.setConfig? (String.ofList value)
      else none
  | _ => none

def long? (command : Subcommand) (given : Given) (name : String) (value : Option String) :
    Option Given :=
  match name, value with
  | "verbose", none => given.setVerbose?
  | "config", value =>
      if command = .resolve then
        match value with
        | some value => given.setConfig? value
        | none => given.awaitConfig?
      else none
  | _, _ => none

def arguments? (command : Subcommand) (given : Given) : List String → Option Given
  | [] => if given.awaitsConfig then none else some given
  | arg :: args =>
      if given.awaitsConfig then
        match Argument.ofString arg with
        | .word value => (given.setConfig? value).bind fun given => given.arguments? command args
        | _ => none
      else
        match Argument.ofString arg with
        | .word word =>
            { given with words := given.words ++ [word] }.arguments? command args
        | .endOfOptions => some { given with words := given.words ++ args }
        | .long name value =>
            (given.long? command name value).bind fun given => given.arguments? command args
        | .short letters =>
            (given.letters? command letters).bind fun given => given.arguments? command args

def request? (command : Subcommand) (given : Given) : Option Request :=
  match command, given.words, given.config with
  | .test, [criteria], _ => some (.test criteria none)
  | .test, [criteria, version], _ => some (.test criteria (some version))
  | .compare, [a, b], _ => some (.compare a b)
  | .resolve, [key], some config => some (.resolve config key none)
  | .resolve, [key, version], some config => some (.resolve config key (some version))
  | _, _, _ => none

end Given

/-- What a run of letters before the subcommand does to the verbose flag. -/
inductive Leading where
  | verbose (verbose : Bool)
  | showVersion
  | misuse

def leadingLetters (verbose : Bool) : List Char → Leading
  | [] => .verbose verbose
  | 'v' :: letters => if verbose then .misuse else leadingLetters true letters
  | 'V' :: _ => .showVersion
  | _ => .misuse

def leadingLong (verbose : Bool) (name : String) (value : Option String) : Leading :=
  match name, value with
  | "verbose", none => if verbose then .misuse else .verbose true
  | "version", none => .showVersion
  | _, _ => .misuse

namespace CommandLine

def ofSubcommand (verbose : Bool) (command : Subcommand) (args : List String) : CommandLine :=
  match Given.start.arguments? command args with
  | none => .misuse
  | some given =>
      match given.request? command with
      | none => .misuse
      | some request => .invocation ⟨verbose || given.verbose, request⟩

/-- Reads arguments from before the subcommand on. The first thing that decides, decides. -/
def ofArguments (verbose : Bool) : List String → CommandLine
  | [] => .misuse
  | arg :: args =>
      let next (leading : Leading) : CommandLine :=
        match leading with
        | .verbose verbose => ofArguments verbose args
        | .showVersion => .showVersion
        | .misuse => .misuse
      match Argument.ofString arg with
      | .word name =>
          match Subcommand.ofName? name with
          | some command => ofSubcommand verbose command args
          | none => .misuse
      | .endOfOptions => .misuse
      | .long name value => next (leadingLong verbose name value)
      | .short letters => next (leadingLetters verbose letters)

def read (args : List String) : CommandLine := ofArguments false args

end CommandLine

end VersionDispatch.Command
