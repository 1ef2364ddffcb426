

namespace ChangeTracking

/-- What is to be laid out, with the names of its parts. -/
inductive Outline where
  | atom (text : String)
  | tuple (name : String) (items : List Outline)
  | record (name : String) (fields : List (String × Outline))
  | sequence (items : List Outline)
  | mapping (entries : List (Outline × Outline))

namespace Outline

def ofNat (number : Nat) : Outline := .atom (toString number)

def ofBool (flag : Bool) : Outline := .atom (toString flag)

def listed (parts : List String) : String := String.intercalate ", " parts

mutual
def compact : Outline → String
  | .atom text => text
  | .tuple name items => name ++ "(" ++ listed (compactItems items) ++ ")"
  | .record name [] => name
  | .record name (field :: fields) =>
    name ++ " \x7b " ++ listed (compactFields (field :: fields)) ++ " \x7d"
  | .sequence items => "[" ++ listed (compactItems items) ++ "]"
  | .mapping entries => "\x7b" ++ listed (compactEntries entries) ++ "\x7d"

def compactItems : List Outline → List String
  | [] => []
  | item :: rest => compact item :: compactItems rest

def compactFields : List (String × Outline) → List String
  | [] => []
  | (name, value) :: rest => (name ++ ": " ++ compact value) :: compactFields rest

def compactEntries : List (Outline × Outline) → List String
  | [] => []
  | (key, value) :: rest => (compact key ++ ": " ++ compact value) :: compactEntries rest
end

/-- The characters with four blanks before each line that is not left empty at the end. -/
def shift : (atStart : Bool) → List Char → List Char
  | _, [] => []
  | true, char :: rest => ' ' :: ' ' :: ' ' :: ' ' :: char :: shift (char == '\n') rest
  | false, char :: rest => char :: shift (char == '\n') rest

/-- Parts on lines of their own between two brackets; nothing stands between if there is none. -/
def block (opening closing : String) (parts : List String) : String :=
  match parts with
  | [] => opening ++ closing
  | _ :: _ =>
    let lines := String.join (parts.map fun part => part ++ ",\n")
    opening ++ "\n" ++ String.ofList (shift true lines.toList) ++ closing

mutual
def indented : Outline → String
  | .atom text => text
  | .tuple name items => block (name ++ "(") ")" (indentedItems items)
  | .record name [] => name
  | .record name (field :: fields) =>
    block (name ++ " \x7b") "\x7d" (indentedFields (field :: fields))
  | .sequence items => block "[" "]" (indentedItems items)
  | .mapping entries => block "\x7b" "\x7d" (indentedEntries entries)

def indentedItems : List Outline → List String
  | [] => []
  | item :: rest => indented item :: indentedItems rest

def indentedFields : List (String × Outline) → List String
  | [] => []
  | (name, value) :: rest => (name ++ ": " ++ indented value) :: indentedFields rest

def indentedEntries : List (Outline × Outline) → List String
  | [] => []
  | (key, value) :: rest => (indented key ++ ": " ++ indented value) :: indentedEntries rest
end

end Outline
end ChangeTracking
