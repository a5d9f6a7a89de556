import Zpl.Command.Instruction
import Zpl.Command.Violation

namespace Zpl

inductive Check where
  | within (parameter : String) (value lo hi : Int)
  | oneOf (parameter : String) (letter : Char) (choices : List Char)
  | filled (parameter text : String)

namespace Check

-- What the check finds in an instruction with the given opcode. Bounds belong to the range.
def violation? (opcode : String) : Check → Option Violation
  | within parameter value lo hi =>
    if value < lo ∨ hi < value then
      some (.outOfRange opcode parameter value lo hi)
    else
      none
  | oneOf parameter letter choices =>
    if letter ∈ choices then
      none
    else
      some (.notAChoice opcode parameter (String.singleton letter)
        (", ".intercalate (choices.map String.singleton)))
  | filled parameter text =>
    if text = "" then some (.empty opcode parameter) else none

def within? (parameter : String) (value : Option Int) (lo hi : Int) : List Check :=
  value.toList.map (within parameter · lo hi)

end Check

namespace Instruction

def maxDots : Int := 32000

def maxCount : Int := 99999999

open Check in
def checks : Instruction → List Check
  | printWidth width => [within "width" width 2 maxDots]
  | labelHome x y => [within "x" x 0 maxDots, within "y" y 0 maxDots]
  | labelShift shift => [within "shift" shift (-9999) 9999]
  | labelLength length => [within "length" length 1 maxDots]
  | printRate _ darkness => [within "darkness" darkness 0 30]
  | mediaDarkness darkness => [within "darkness" darkness (-30) 30]
  | printQuantity quantity pauseEvery replicates _ _ =>
    within "quantity" quantity 1 maxCount ::
      within? "pause count" pauseEvery 0 maxCount ++
      within? "replicates" replicates 0 maxCount
  | fieldOrigin x y _ => [within "x" x 0 maxDots, within "y" y 0 maxDots]
  | fieldBlock width lines lineSpacing _ hangingIndent =>
    [within "width" width 0 9999, within "lines" lines 1 9999,
     within "line spacing" lineSpacing (-9999) 9999,
     within "hanging indent" hangingIndent 0 9999]
  | font _ height width =>
    [within "height" height 10 maxDots, within "width" width 10 maxDots]
  | fontAt _ height width path =>
    [filled "font path" path, within "height" height 10 maxDots, within "width" width 10 maxDots]
  | changeAlphanumericFont _ height width =>
    [within "height" height 0 maxDots, within "width" width 0 maxDots]
  | code128Barcode _ height .. => [within "height" height 1 maxDots]
  | code39Barcode _ _ height .. => [within "height" height 1 maxDots]
  | barcodeFieldDefault moduleWidth ratio height =>
    [within "module width" moduleWidth 1 10, within "ratio" ratio 2 3,
     within "height" height 1 maxDots]
  | graphicBox width height thickness _ rounding =>
    [within "width" width 1 maxDots, within "height" height 1 maxDots,
     within "thickness" thickness 1 maxDots] ++ within? "rounding" rounding 0 8
  | graphicCircle diameter thickness _ =>
    [within "diameter" diameter 3 4095, within "thickness" thickness 1 4095]
  | graphicDiagonalLine width height thickness .. =>
    [within "width" width 3 maxDots, within "height" height 3 maxDots,
     within "thickness" thickness 1 maxDots]
  | graphicEllipse width height thickness _ =>
    [within "width" width 3 4095, within "height" height 3 4095,
     within "thickness" thickness 2 4095]
  | graphicField format dataBytes totalBytes rowBytes _ =>
    [oneOf "format" format ['A', 'B', 'C'], within "data bytes" dataBytes 1 maxCount,
     within "total bytes" totalBytes 1 maxCount, within "row bytes" rowBytes 1 99999]
  | startFormat | endFormat | mediaMode .. | fieldData _ | fieldSeparator
  | defaultFieldOrientation _ => []

def violation? (i : Instruction) : Option Violation :=
  i.checks.findSome? (·.violation? i.opcode)

end Instruction
end Zpl
