import ChangeTracking.Text.Hidden

namespace ChangeTracking.Quoted

/-- The letter behind the backslash, for characters that have one. -/
def letter? : Char → Option Char
  | '"' => some '"'
  | '\\' => some '\\'
  | '\n' => some 'n'
  | '\r' => some 'r'
  | '\t' => some 't'
  | '\x00' => some '0'
  | _ => none

def writtenChar (char : Char) : List Char :=
  match letter? char with
  | some letter => ['\\', letter]
  | none =>
    if Hidden.isHidden char then '\\' :: 'u' :: '\x7b' :: Nat.toDigits 16 char.toNat ++ ['\x7d']
    else [char]

def encode (text : String) : String :=
  "\"" ++ String.ofList (text.toList.flatMap writtenChar) ++ "\""

end ChangeTracking.Quoted
