import Zpl.Document.Authoring
import Zpl.Document.Json

namespace Zpl

inductive Step where
  | addRaw (text : String)
  | add (command : Command)
  | emit (instruction : Instruction)
  | addField (x y : Int) (data : String)
  | addFontField (x y : Int) (face : Font) (height width : Int) (data : String)
  | label (body : List Step)
  | clear
  | render
  | renderWith (separator : Separator)
  | display
  | dump
  | json
  | isEmpty
  | element (index : Nat)
  | fail (violation : Violation)
  -- Goes on after a refusal.
  | attempt (step : Step)

abbrev Script := List Step

inductive Answer where
  | done
  | text (s : String)
  | flag (b : Bool)
  | absent
  deriving DecidableEq

end Zpl
