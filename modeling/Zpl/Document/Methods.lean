import Zpl.Document.Authoring

namespace Zpl.Document

variable (d : Document)

def startFormat : Report Unit :=
  d.add (.builtin .startFormat)

def endFormat : Report Unit :=
  d.add (.builtin .endFormat)

def printWidth (width : Int) : Report Unit :=
  d.emit (.printWidth width)

def labelHome (x y : Int) : Report Unit :=
  d.emit (.labelHome x y)

def labelShift (shift : Int) : Report Unit :=
  d.emit (.labelShift shift)

def labelLength (length : Int) : Report Unit :=
  d.emit (.labelLength length)

def mediaMode (mode : PrintMode) (handling : PreprintedLabelHandling) : Report Unit :=
  d.add (.builtin (.mediaMode mode handling))

def defaultPrintRate (speed : PrintSpeed) (darkness : Int) : Report Unit :=
  d.emit (.printRate speed darkness)

def defaultMediaDarkness (darkness : Int) : Report Unit :=
  d.emit (.mediaDarkness darkness)

def printQuantity (quantity : Int) (pauseEvery replicates : Option Int)
    (overridePause cutOnError : Option Bool) : Report Unit :=
  d.emit (.printQuantity quantity pauseEvery replicates overridePause cutOnError)

def fieldOrigin (x y : Int) (justification : Option FieldJustification) : Report Unit :=
  d.emit (.fieldOrigin x y justification)

def fieldData (data : String) : Report Unit :=
  d.add (.builtin (.fieldData data))

def fieldSeparator : Report Unit :=
  d.add (.builtin .fieldSeparator)

def defaultFieldOrientation (orientation : FieldOrientation) : Report Unit :=
  d.add (.builtin (.defaultFieldOrientation orientation))

def fieldBlock (width lines lineSpacing : Int) (alignment : TextAlignment) (hangingIndent : Int) :
    Report Unit :=
  d.emit (.fieldBlock width lines lineSpacing alignment hangingIndent)

def font (face : Font) (height width : Int) : Report Unit :=
  d.emit (.font face height width)

def fontAt (orientation : FieldOrientation) (height width : Int) (path : String) : Report Unit :=
  d.emit (.fontAt orientation height width path)

def defaultAlphanumericFont (face : Font) (height width : Int) : Report Unit :=
  d.emit (.changeAlphanumericFont face height width)

def code128Barcode (orientation : FieldOrientation) (height : Int)
    (interpretationLine lineAbove checkDigit : Bool) (mode : Code128Mode) : Report Unit :=
  d.emit (.code128Barcode orientation height interpretationLine lineAbove checkDigit mode)

def code39Barcode (orientation : FieldOrientation) (checkDigit : Bool) (height : Int)
    (interpretationLine lineAbove : Bool) : Report Unit :=
  d.emit (.code39Barcode orientation checkDigit height interpretationLine lineAbove)

def defaultBarcodeField (moduleWidth ratio height : Int) : Report Unit :=
  d.emit (.barcodeFieldDefault moduleWidth ratio height)

def graphicBox (width height thickness : Int) (color : Option LineColor) (rounding : Option Int) :
    Report Unit :=
  d.emit (.graphicBox width height thickness color rounding)

def graphicCircle (diameter thickness : Int) (color : Option LineColor) : Report Unit :=
  d.emit (.graphicCircle diameter thickness color)

def graphicDiagonalLine (width height thickness : Int) (color : Option LineColor)
    (orientation : Option DiagonalOrientation) : Report Unit :=
  d.emit (.graphicDiagonalLine width height thickness color orientation)

def graphicEllipse (width height thickness : Int) (color : Option LineColor) : Report Unit :=
  d.emit (.graphicEllipse width height thickness color)

def graphicField (format : Char) (dataBytes totalBytes rowBytes : Int) (data : String) :
    Report Unit :=
  d.emit (.graphicField format dataBytes totalBytes rowBytes data)

-- Calls the method that makes an instruction. One that no argument can get refused is added without
-- a check.
def make : Instruction → Report Unit
  | .startFormat => d.startFormat
  | .endFormat => d.endFormat
  | .printWidth width => d.printWidth width
  | .labelHome x y => d.labelHome x y
  | .labelShift shift => d.labelShift shift
  | .labelLength length => d.labelLength length
  | .mediaMode mode handling => d.mediaMode mode handling
  | .printRate speed darkness => d.defaultPrintRate speed darkness
  | .mediaDarkness darkness => d.defaultMediaDarkness darkness
  | .printQuantity quantity pauseEvery replicates overridePause cutOnError =>
    d.printQuantity quantity pauseEvery replicates overridePause cutOnError
  | .fieldOrigin x y justification => d.fieldOrigin x y justification
  | .fieldData data => d.fieldData data
  | .fieldSeparator => d.fieldSeparator
  | .defaultFieldOrientation orientation => d.defaultFieldOrientation orientation
  | .fieldBlock width lines lineSpacing alignment hangingIndent =>
    d.fieldBlock width lines lineSpacing alignment hangingIndent
  | .font face height width => d.font face height width
  | .fontAt orientation height width path => d.fontAt orientation height width path
  | .changeAlphanumericFont face height width => d.defaultAlphanumericFont face height width
  | .code128Barcode orientation height interpretationLine lineAbove checkDigit mode =>
    d.code128Barcode orientation height interpretationLine lineAbove checkDigit mode
  | .code39Barcode orientation checkDigit height interpretationLine lineAbove =>
    d.code39Barcode orientation checkDigit height interpretationLine lineAbove
  | .barcodeFieldDefault moduleWidth ratio height => d.defaultBarcodeField moduleWidth ratio height
  | .graphicBox width height thickness color rounding =>
    d.graphicBox width height thickness color rounding
  | .graphicCircle diameter thickness color => d.graphicCircle diameter thickness color
  | .graphicDiagonalLine width height thickness color orientation =>
    d.graphicDiagonalLine width height thickness color orientation
  | .graphicEllipse width height thickness color => d.graphicEllipse width height thickness color
  | .graphicField format dataBytes totalBytes rowBytes data =>
    d.graphicField format dataBytes totalBytes rowBytes data

theorem make_eq_emit (i : Instruction) : d.make i = d.emit i := by
  cases i <;> rfl

end Zpl.Document
