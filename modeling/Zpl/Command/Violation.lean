import Zpl.Text.Quoted

namespace Zpl

inductive Violation where
  | outOfRange (command parameter : String) (value lo hi : Int)
  | notAChoice (command parameter value expected : String)
  | empty (command parameter : String)
  deriving DecidableEq

namespace Violation

def command : Violation → String
  | outOfRange command .. => command
  | notAChoice command .. => command
  | empty command _       => command

def message : Violation → String
  | outOfRange command parameter value lo hi =>
    command ++ " " ++ parameter ++ " must be between " ++ toString lo ++ " and " ++ toString hi ++
      ", got " ++ toString value
  | notAChoice command parameter value expected =>
    command ++ " " ++ parameter ++ " must be one of " ++ expected ++ ", got " ++ Text.quoted value
  | empty command parameter =>
    command ++ " " ++ parameter ++ " must not be empty"

end Violation
end Zpl
