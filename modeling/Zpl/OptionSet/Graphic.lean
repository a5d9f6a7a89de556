import Zpl.OptionSet.Basic

namespace Zpl

inductive LineColor where
  | black
  | white
  deriving DecidableEq

namespace LineColor

def name : LineColor → String
  | black => "black"
  | white => "white"

def code : LineColor → String
  | black => "B"
  | white => "W"

instance : OptionSet LineColor where
  all := [.black, .white]
  mem_all x := by cases x <;> simp
  name := name
  code := code
  nodup_codes := by decide

end LineColor

inductive DiagonalOrientation where
  | rightLeaning
  | leftLeaning
  deriving DecidableEq

namespace DiagonalOrientation

def name : DiagonalOrientation → String
  | rightLeaning => "right_leaning"
  | leftLeaning  => "left_leaning"

def code : DiagonalOrientation → String
  | rightLeaning => "R"
  | leftLeaning  => "L"

instance : OptionSet DiagonalOrientation where
  all := [.rightLeaning, .leftLeaning]
  mem_all x := by cases x <;> simp
  name := name
  code := code
  nodup_codes := by decide

end DiagonalOrientation

end Zpl
