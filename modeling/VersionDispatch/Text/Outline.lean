import VersionDispatch.Text.Quoted

namespace VersionDispatch.Text

/-- What a value looks like from outside. A record with `more` has parts that are not shown. -/
inductive Outline where
  | atom (text : String)
  | record (name : String) (fields : List (String × Outline)) (more : Bool)
  | tuple (name : String) (items : List Outline)
  | list (items : List Outline)
  | map (entries : List (String × Outline))

namespace Outline

def text (s : String) : Outline := .atom (quoted s)

def number (n : Nat) : Outline := .atom (toString n)

def option (item : Option Outline) : Outline :=
  match item with
  | none => .atom "None"
  | some item => .tuple "Some" [item]

private def commaSeparated (parts : List String) : String := ", ".intercalate parts

mutual

def inline : Outline → String
  | .atom s => s
  | .record name fields more =>
      let parts := inlineFields fields ++ (if more then [".."] else [])
      if parts.isEmpty then name else name ++ " \x7b " ++ commaSeparated parts ++ " \x7d"
  | .tuple name items => name ++ "(" ++ commaSeparated (inlineItems items) ++ ")"
  | .list items => "[" ++ commaSeparated (inlineItems items) ++ "]"
  | .map entries => "\x7b" ++ commaSeparated (inlineEntries entries) ++ "\x7d"

def inlineItems : List Outline → List String
  | [] => []
  | item :: items => item.inline :: inlineItems items

def inlineFields : List (String × Outline) → List String
  | [] => []
  | (name, value) :: fields => (name ++ ": " ++ value.inline) :: inlineFields fields

def inlineEntries : List (String × Outline) → List String
  | [] => []
  | (key, value) :: entries => (quoted key ++ ": " ++ value.inline) :: inlineEntries entries

end

private def margin (depth : Nat) : String := String.ofList (List.replicate (4 * depth) ' ')

/-- The lines of parts at a depth, between an opening and a closing mark. -/
private def block (opening closing : String) (depth : Nat) (lines : List String) : String :=
  if lines.isEmpty then opening ++ closing
  else
    opening ++ "\n" ++ String.join (lines.map fun line => margin (depth + 1) ++ line ++ "\n") ++
      margin depth ++ closing

mutual

/-- The outline with one part a line, inside `depth` other outlines. -/
def indentedAt (depth : Nat) : Outline → String
  | .atom s => s
  | .record name fields more =>
      let lines := fieldLines depth fields ++ (if more then [".."] else [])
      if lines.isEmpty then name else block (name ++ " \x7b") "\x7d" depth lines
  | .tuple name items => block (name ++ "(") ")" depth (itemLines depth items)
  | .list items => block "[" "]" depth (itemLines depth items)
  | .map entries => block "\x7b" "\x7d" depth (entryLines depth entries)

def itemLines (depth : Nat) : List Outline → List String
  | [] => []
  | item :: items => (item.indentedAt (depth + 1) ++ ",") :: itemLines depth items

def fieldLines (depth : Nat) : List (String × Outline) → List String
  | [] => []
  | (name, value) :: fields =>
      (name ++ ": " ++ value.indentedAt (depth + 1) ++ ",") :: fieldLines depth fields

def entryLines (depth : Nat) : List (String × Outline) → List String
  | [] => []
  | (key, value) :: entries =>
      (quoted key ++ ": " ++ value.indentedAt (depth + 1) ++ ",") :: entryLines depth entries

end

def indented (outline : Outline) : String := outline.indentedAt 0

end Outline

end VersionDispatch.Text
