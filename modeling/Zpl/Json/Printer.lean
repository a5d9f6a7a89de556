import Zpl.Json.Basic

namespace Zpl.Json

-- U+0000 to U+001F without a letter of their own. Two digits are enough for them.
def controlEscape (c : Char) : List Char :=
  ['\\', 'u', '0', '0', Nat.digitChar (c.toNat / 16), Nat.digitChar (c.toNat % 16)]

def escape (c : Char) : List Char :=
  match c with
  | '"'  => ['\\', '"']
  | '\\' => ['\\', '\\']
  | '\x08' => ['\\', 'b']
  | '\t' => ['\\', 't']
  | '\n' => ['\\', 'n']
  | '\x0c' => ['\\', 'f']
  | '\r' => ['\\', 'r']
  | c => if c.toNat < 0x20 then controlEscape c else [c]

def stringChars (s : String) : List Char :=
  '"' :: s.toList.flatMap escape ++ ['"']

def boolChars : Bool → List Char
  | true  => "true".toList
  | false => "false".toList

def commaBefore (rest : List α) : List Char :=
  if rest.isEmpty then [] else [',']

mutual

def compactChars : Json → List Char
  | .null       => "null".toList
  | .bool b     => boolChars b
  | .int n      => (toString n).toList
  | .str s      => stringChars s
  | .arr items  => '[' :: compactItems items ++ [']']
  | .obj fields => '{' :: compactFields fields ++ ['}']

def compactItems : List Json → List Char
  | []           => []
  | item :: rest => compactChars item ++ commaBefore rest ++ compactItems rest

def compactFields : List (String × Json) → List Char
  | []                   => []
  | (key, value) :: rest =>
    stringChars key ++ ':' :: compactChars value ++ commaBefore rest ++ compactFields rest

end

def compact (j : Json) : String :=
  String.ofList j.compactChars

def newline (level : Nat) : List Char :=
  '\n' :: List.replicate (2 * level) ' '

-- The lines of a container between its brackets. An empty one stays on its line.
def block (level : Nat) (lines : List Char) : List Char :=
  if lines.isEmpty then [] else lines ++ newline level

mutual

def prettyChars (level : Nat) : Json → List Char
  | .null       => "null".toList
  | .bool b     => boolChars b
  | .int n      => (toString n).toList
  | .str s      => stringChars s
  | .arr items  => '[' :: block level (prettyItems (level + 1) items) ++ [']']
  | .obj fields => '{' :: block level (prettyFields (level + 1) fields) ++ ['}']

def prettyItems (level : Nat) : List Json → List Char
  | []           => []
  | item :: rest =>
    newline level ++ prettyChars level item ++ commaBefore rest ++ prettyItems level rest

def prettyFields (level : Nat) : List (String × Json) → List Char
  | []                   => []
  | (key, value) :: rest =>
    newline level ++ stringChars key ++ ':' :: ' ' :: prettyChars level value ++
      commaBefore rest ++ prettyFields level rest

end

def pretty (j : Json) : String :=
  String.ofList (j.prettyChars 0)

end Zpl.Json
