import Provisioner.Json.Basic

/-!
JSON values as block YAML: a list stands at the column of the key above it, a text of several lines
is a literal block, and a text that would read as something else is quoted.
-/

namespace Provisioner.Json

def yamlIndicators : List Char :=
  ['-', '?', ':', ',', '[', ']', '\x7b', '\x7d', '#', '&', '*', '!', '|', '>', '\'', '"', '%', '@',
    '\x60']

def yamlWords : List String :=
  ["null", "Null", "NULL", "~", "true", "True", "TRUE", "false", "False", "FALSE"]

/-- The text can stand without quotes. -/
def isPlain (s : String) : Bool :=
  let cs := s.toList
  match cs.head?, cs.getLast? with
  | some first, some last =>
    !yamlIndicators.contains first && first != ' ' && last != ' ' && last != ':' &&
      !yamlWords.contains s && !first.isDigit &&
      (cs.zip cs.tail).all fun p => p != (':', ' ') && p != (' ', '#')
  | _, _ => false

def indent (n : Nat) (line : String) : String :=
  if line = "" then "" else String.ofList (List.replicate n ' ') ++ line

def quotedLine (s : String) : String :=
  let inner := s.toList.flatMap fun c => if c = '\'' then ['\'', '\''] else [c]
  String.ofList ('\'' :: inner ++ ['\''])

/-- The first line of a text value and the lines of its block. -/
def textLines (s : String) : List String :=
  if s.toList.contains '\n' then "|-" :: (s.splitOn "\n").map (indent 2)
  else if isPlain s then [s]
  else [quotedLine s]

mutual

/-- The lines of a value that stands after a key or a dash: the first continues that line. -/
def yamlLines : Json → List String
  | .null => ["null"]
  | .bool b => [if b then "true" else "false"]
  | .integer n => [toString n]
  | .double bits => [Decimal.textOfBits bits]
  | .string s => textLines s
  | .array [] => ["[]"]
  | .array js => yamlItems js
  | .object [] => ["\x7b\x7d"]
  | .object ms => yamlMembers ms

def yamlItems : List Json → List String
  | [] => []
  | j :: js =>
    (match yamlLines j with
     | [] => ["-"]
     | line :: lines => ("- " ++ line) :: lines.map (indent 2)) ++ yamlItems js

def yamlMembers : List (String × Json) → List String
  | [] => []
  | (name, j) :: ms =>
    let lines := yamlLines j
    (match j with
     | .object (_ :: _) => (name ++ ":") :: lines.map (indent 2)
     | .array (_ :: _) => (name ++ ":") :: lines
     | _ =>
       match lines with
       | [] => [name ++ ":"]
       | line :: lines => (name ++ ": " ++ line) :: lines) ++ yamlMembers ms

end

def yaml (j : Json) : String := String.join ((yamlLines j).map (· ++ "\n"))

end Provisioner.Json
