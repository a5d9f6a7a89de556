import Zpl.Command.Slot
import Zpl.OptionSet.Field
import Zpl.OptionSet.Font
import Zpl.OptionSet.Barcode
import Zpl.OptionSet.Graphic
import Zpl.OptionSet.Media

namespace Zpl

inductive Instruction where
  | startFormat
  | endFormat
  | printWidth (width : Int)
  | labelHome (x y : Int)
  | labelShift (shift : Int)
  | labelLength (length : Int)
  | mediaMode (mode : PrintMode) (handling : PreprintedLabelHandling := .normal)
  | printRate (speed : PrintSpeed) (darkness : Int)
  | mediaDarkness (darkness : Int)
  | printQuantity (quantity : Int) (pauseEvery replicates : Option Int)
      (overridePause cutOnError : Option Bool)
  | fieldOrigin (x y : Int) (justification : Option FieldJustification)
  | fieldData (data : String)
  | fieldSeparator
  | defaultFieldOrientation (orientation : FieldOrientation)
  | fieldBlock (width lines lineSpacing : Int) (alignment : TextAlignment) (hangingIndent : Int)
  | font (face : Font) (height width : Int)
  | fontAt (orientation : FieldOrientation) (height width : Int) (path : String)
  | changeAlphanumericFont (face : Font) (height width : Int)
  | code128Barcode (orientation : FieldOrientation) (height : Int)
      (interpretationLine lineAbove checkDigit : Bool) (mode : Code128Mode)
  | code39Barcode (orientation : FieldOrientation) (checkDigit : Bool) (height : Int)
      (interpretationLine lineAbove : Bool)
  | barcodeFieldDefault (moduleWidth ratio height : Int)
  | graphicBox (width height thickness : Int) (color : Option LineColor) (rounding : Option Int)
  | graphicCircle (diameter thickness : Int) (color : Option LineColor)
  | graphicDiagonalLine (width height thickness : Int) (color : Option LineColor)
      (orientation : Option DiagonalOrientation)
  | graphicEllipse (width height thickness : Int) (color : Option LineColor)
  | graphicField (format : Char) (dataBytes totalBytes rowBytes : Int) (data : String)
  deriving DecidableEq

namespace Instruction

def opcode : Instruction → String
  | startFormat ..             => "^XA"
  | endFormat ..               => "^XZ"
  | printWidth ..              => "^PW"
  | labelHome ..               => "^LH"
  | labelShift ..              => "^LS"
  | labelLength ..             => "^LL"
  | mediaMode ..               => "^MM"
  | printRate ..               => "^PR"
  | mediaDarkness ..           => "^MD"
  | printQuantity ..           => "^PQ"
  | fieldOrigin ..             => "^FO"
  | fieldData ..               => "^FD"
  | fieldSeparator ..          => "^FS"
  | defaultFieldOrientation .. => "^FW"
  | fieldBlock ..              => "^FB"
  | font ..                    => "^A"
  | fontAt ..                  => "^A@"
  | changeAlphanumericFont ..  => "^CF"
  | code128Barcode ..          => "^BC"
  | code39Barcode ..           => "^B3"
  | barcodeFieldDefault ..     => "^BY"
  | graphicBox ..              => "^GB"
  | graphicCircle ..           => "^GC"
  | graphicDiagonalLine ..     => "^GD"
  | graphicEllipse ..          => "^GE"
  | graphicField ..            => "^GF"

open Slot in
def slots : Instruction → List Slot
  | startFormat | endFormat | fieldSeparator => []
  | printWidth width => [int "a" width]
  | labelHome x y => [int "x" x, int "y" y]
  | labelShift shift => [int "a" shift]
  | labelLength length => [int "y" length]
  | mediaMode mode handling => [option "a" mode, option "b" handling]
  | printRate speed darkness => [option "s" speed, int "d" darkness]
  | mediaDarkness darkness => [int "a" darkness]
  | printQuantity quantity pauseEvery replicates overridePause cutOnError =>
    [int "q" quantity, int? "p" pauseEvery, int? "r" replicates, flag? "o" overridePause,
     flag? "e" cutOnError]
  | fieldOrigin x y justification => [int "x" x, int "y" y, option? "z" justification]
  | fieldData data => [text "a" data]
  | defaultFieldOrientation orientation => [option "o" orientation]
  | fieldBlock width lines lineSpacing alignment hangingIndent =>
    [int "a" width, int "b" lines, int "c" lineSpacing, option "d" alignment,
     int "e" hangingIndent]
  | font face height width => [option "f" face, int "h" height, int "w" width]
  | fontAt orientation height width path =>
    [option "o" orientation, int "h" height, int "w" width, text "d" path]
  | changeAlphanumericFont face height width =>
    [option "f" face, int "h" height, int "w" width]
  | code128Barcode orientation height interpretationLine lineAbove checkDigit mode =>
    [option "o" orientation, int "h" height, flag "f" interpretationLine, flag "g" lineAbove,
     flag "e" checkDigit, option "m" mode]
  | code39Barcode orientation checkDigit height interpretationLine lineAbove =>
    [option "o" orientation, flag "e" checkDigit, int "h" height, flag "f" interpretationLine,
     flag "g" lineAbove]
  | barcodeFieldDefault moduleWidth ratio height =>
    [int "w" moduleWidth, int "r" ratio, int "h" height]
  | graphicBox width height thickness color rounding =>
    [int "w" width, int "h" height, int "t" thickness, option? "c" color, int? "r" rounding]
  | graphicCircle diameter thickness color =>
    [int "d" diameter, int "t" thickness, option? "c" color]
  | graphicDiagonalLine width height thickness color orientation =>
    [int "w" width, int "h" height, int "t" thickness, option? "c" color,
     option? "o" orientation]
  | graphicEllipse width height thickness color =>
    [int "w" width, int "h" height, int "t" thickness, option? "c" color]
  | graphicField format dataBytes totalBytes rowBytes data =>
    [char "a" format, int "b" dataBytes, int "c" totalBytes, int "d" rowBytes, text "data" data]

end Instruction
end Zpl
