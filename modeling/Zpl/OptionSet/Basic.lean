import Zpl.Json.Basic

namespace Zpl

-- A finite type whose members have a name and a printer code. No two have the same code.
class OptionSet (α : Type) where
  all         : List α
  mem_all     : ∀ a, a ∈ all
  name        : α → String
  code        : α → String
  nodup_codes : (all.map code).Nodup

namespace OptionSet

inductive ReadError where
  | unknownName (given : String) (names : List String)
  | notAName

-- Wraps each name in backticks, so that blanks in it can be told.
def ticked (name : String) : String :=
  "`" ++ name ++ "`"

def alternatives : List String → String
  | []     => "there are no variants"
  | [a]    => "expected " ++ ticked a
  | [a, b] => "expected " ++ ticked a ++ " or " ++ ticked b
  | names  => "expected one of " ++ ", ".intercalate (names.map ticked)

def ReadError.message? : ReadError → Option String
  | unknownName given names => "unknown variant " ++ ticked given ++ ", " ++ alternatives names
  | notAName                => none

variable (α) [OptionSet α]

def names : List String :=
  (all (α := α)).map name

variable {α}

def ofName? (s : String) : Option α :=
  all.find? (name · == s)

-- An option is its name, or an object with that name as its only key and null under it.
def ofJson? : Json → Except ReadError α
  | .str s =>
    match ofName? s with
    | some a => .ok a
    | none   => .error (.unknownName s (names α))
  | .obj [(key, .null)] =>
    match ofName? key with
    | some a => .ok a
    | none   => .error .notAName
  | _ => .error .notAName

end OptionSet
end Zpl
