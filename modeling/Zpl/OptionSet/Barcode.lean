import Zpl.OptionSet.Basic

namespace Zpl

inductive Code128Mode where
  | noMode
  | ucc
  | automatic
  | uccEan
  deriving DecidableEq

namespace Code128Mode

def name : Code128Mode → String
  | noMode    => "no_mode"
  | ucc       => "ucc"
  | automatic => "automatic"
  | uccEan    => "ucc_ean"

def code : Code128Mode → String
  | noMode    => "N"
  | ucc       => "U"
  | automatic => "A"
  | uccEan    => "D"

instance : OptionSet Code128Mode where
  all := [.noMode, .ucc, .automatic, .uccEan]
  mem_all x := by cases x <;> simp
  name := name
  code := code
  nodup_codes := by decide

end Code128Mode

end Zpl
