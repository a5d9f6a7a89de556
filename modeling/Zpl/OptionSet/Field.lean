import Zpl.OptionSet.Basic

namespace Zpl

inductive FieldOrientation where
  | normal
  | rotated
  | inverted
  | bottom
  deriving DecidableEq

namespace FieldOrientation

def name : FieldOrientation → String
  | normal   => "normal"
  | rotated  => "rotated"
  | inverted => "inverted"
  | bottom   => "bottom"

def code : FieldOrientation → String
  | normal   => "N"
  | rotated  => "R"
  | inverted => "I"
  | bottom   => "B"

instance : OptionSet FieldOrientation where
  all := [.normal, .rotated, .inverted, .bottom]
  mem_all x := by cases x <;> simp
  name := name
  code := code
  nodup_codes := by decide

end FieldOrientation

inductive FieldJustification where
  | left
  | right
  | auto
  deriving DecidableEq

namespace FieldJustification

def name : FieldJustification → String
  | left  => "left"
  | right => "right"
  | auto  => "auto"

def code : FieldJustification → String
  | left  => "0"
  | right => "1"
  | auto  => "2"

instance : OptionSet FieldJustification where
  all := [.left, .right, .auto]
  mem_all x := by cases x <;> simp
  name := name
  code := code
  nodup_codes := by decide

end FieldJustification

inductive TextAlignment where
  | left
  | center
  | right
  | justified
  deriving DecidableEq

namespace TextAlignment

def name : TextAlignment → String
  | left      => "left"
  | center    => "center"
  | right     => "right"
  | justified => "justified"

def code : TextAlignment → String
  | left      => "L"
  | center    => "C"
  | right     => "R"
  | justified => "J"

instance : OptionSet TextAlignment where
  all := [.left, .center, .right, .justified]
  mem_all x := by cases x <;> simp
  name := name
  code := code
  nodup_codes := by decide

end TextAlignment

end Zpl
