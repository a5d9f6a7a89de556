import Zpl.Json.Basic
import Zpl.OptionSet.Basic

namespace Zpl

inductive Value where
  | int (n : Int)
  | flag (b : Bool)
  | char (c : Char)
  | text (s : String)
  | code (s : String)
  deriving DecidableEq

namespace Value

-- What the printer is sent: numbers in decimal, flags as Y or N, all else as it stands.
def wire : Value → String
  | int n      => toString n
  | flag true  => "Y"
  | flag false => "N"
  | char c     => String.singleton c
  | text s     => s
  | code s     => s

def ofOption [OptionSet α] (a : α) : Value :=
  .code (OptionSet.code a)

def toJson : Value → Json
  | int n  => .int n
  | flag b => .bool b
  | char c => .str (String.singleton c)
  | text s => .str s
  | code s => .str s

end Value

structure Slot where
  key   : String
  value : Option Value
  deriving DecidableEq

namespace Slot

def int (key : String) (n : Int) : Slot := ⟨key, some (.int n)⟩

def flag (key : String) (b : Bool) : Slot := ⟨key, some (.flag b)⟩

def text (key : String) (s : String) : Slot := ⟨key, some (.text s)⟩

def char (key : String) (c : Char) : Slot := ⟨key, some (.char c)⟩

def option [OptionSet α] (key : String) (a : α) : Slot := ⟨key, some (.ofOption a)⟩

def int? (key : String) (n : Option Int) : Slot := ⟨key, n.map .int⟩

def flag? (key : String) (b : Option Bool) : Slot := ⟨key, b.map .flag⟩

def option? [OptionSet α] (key : String) (a : Option α) : Slot := ⟨key, a.map .ofOption⟩

def toJson (s : Slot) : Json :=
  .obj (("key", .str s.key) :: s.value.toList.map fun v => ("value", v.toJson))

end Slot
end Zpl
