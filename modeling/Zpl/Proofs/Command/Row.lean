import Zpl.Proofs.Command.Positional

namespace Zpl

-- The codes of an option set, listed apart from the options. They are the codes that are sent.
class CodeTable (α : Type) [DecidableEq α] [OptionSet α] where
  codes     : List (α × String)
  lookup_eq : ∀ a, codes.lookup a = some (OptionSet.code a)

instance : CodeTable FieldOrientation where
  codes := [(.normal, "N"), (.rotated, "R"), (.inverted, "I"), (.bottom, "B")]
  lookup_eq a := by cases a <;> rfl

instance : CodeTable Font where
  codes :=
    [(.a, "A"), (.b, "B"), (.c, "C"), (.d, "D"), (.e, "E"), (.f, "F"), (.g, "G"), (.h, "H"),
     (.scalable, "0"), (.p, "P"), (.q, "Q"), (.r, "R"), (.s, "S"), (.t, "T"), (.u, "U"), (.v, "V")]
  lookup_eq face := by cases face <;> rfl

instance : CodeTable LineColor where
  codes := [(.black, "B"), (.white, "W")]
  lookup_eq a := by cases a <;> rfl

instance : CodeTable TextAlignment where
  codes := [(.left, "L"), (.center, "C"), (.right, "R"), (.justified, "J")]
  lookup_eq a := by cases a <;> rfl

instance : CodeTable DiagonalOrientation where
  codes := [(.rightLeaning, "R"), (.leftLeaning, "L")]
  lookup_eq a := by cases a <;> rfl

instance : CodeTable PrintMode where
  codes :=
    [(.tearOff, "T"), (.peelOff, "P"), (.rewind, "R"), (.applicator, "A"), (.cutter, "C"),
     (.delayedCut, "D")]
  lookup_eq a := by cases a <;> rfl

instance : CodeTable PreprintedLabelHandling where
  codes := [(.normal, "N"), (.prepeel, "Y")]
  lookup_eq a := by cases a <;> rfl

instance : CodeTable PrintSpeed where
  codes :=
    [(.ips1, "1"), (.ips2, "2"), (.ips3, "3"), (.ips4, "4"), (.ips5, "5"), (.ips6, "6"),
     (.ips7, "7"), (.ips8, "8"), (.ips9, "9"), (.ips10, "10"), (.ips11, "11"), (.ips12, "12"),
     (.ips13, "13"), (.ips14, "14")]
  lookup_eq a := by cases a <;> rfl

instance : CodeTable FieldJustification where
  codes := [(.left, "0"), (.right, "1"), (.auto, "2")]
  lookup_eq a := by cases a <;> rfl

instance : CodeTable Code128Mode where
  codes := [(.noMode, "N"), (.ucc, "U"), (.automatic, "A"), (.uccEan, "D")]
  lookup_eq a := by cases a <;> rfl

class Argument (α : Type) where
  sent : α → Option String

namespace Argument

instance : Argument Int := ⟨fun n => some (toString n)⟩

instance : Argument Bool := ⟨fun b => some (if b then "Y" else "N")⟩

instance : Argument Char := ⟨fun c => some (String.singleton c)⟩

instance : Argument String := ⟨some⟩

instance [DecidableEq α] [OptionSet α] [CodeTable α] : Argument α := ⟨fun a => CodeTable.codes.lookup a⟩

instance [Argument α] : Argument (Option α) := ⟨fun a => a.bind sent⟩

end Argument

namespace Slot

open Argument

variable (key : String)

@[simp]
theorem text?_int (n : Int) : (int key n).text? = sent n :=
  rfl

@[simp]
theorem text?_flag (b : Bool) : (flag key b).text? = sent b := by
  cases b <;> rfl

@[simp]
theorem text?_text (s : String) : (text key s).text? = sent s :=
  rfl

@[simp]
theorem text?_char (c : Char) : (char key c).text? = sent c :=
  rfl

@[simp]
theorem text?_int? (n : Option Int) : (int? key n).text? = sent n := by
  cases n <;> rfl

@[simp]
theorem text?_flag? (b : Option Bool) : (flag? key b).text? = sent b := by
  cases b
  case none   => rfl
  case some b => exact text?_flag key b

variable [DecidableEq α] [OptionSet α] [CodeTable α]

@[simp]
theorem text?_option (a : α) : (option key a).text? = sent a :=
  (CodeTable.lookup_eq a).symm

@[simp]
theorem text?_option? (a : Option α) : (option? key a).text? = sent a := by
  cases a
  case none   => rfl
  case some a => exact text?_option key a

end Slot

structure Row where
  opcode    : String
  arguments : List (Option String)

def Row.text (r : Row) : String :=
  r.opcode ++ ",".intercalate r.arguments.reduceOption

namespace Instruction

open Argument in
def row : Instruction → Row
  | startFormat => ⟨"^XA", []⟩
  | endFormat => ⟨"^XZ", []⟩
  | printWidth width => ⟨"^PW", [sent width]⟩
  | labelHome x y => ⟨"^LH", [sent x, sent y]⟩
  | labelShift shift => ⟨"^LS", [sent shift]⟩
  | labelLength length => ⟨"^LL", [sent length]⟩
  | mediaMode mode handling => ⟨"^MM", [sent mode, sent handling]⟩
  | printRate speed darkness => ⟨"^PR", [sent speed, sent darkness]⟩
  | mediaDarkness darkness => ⟨"^MD", [sent darkness]⟩
  | printQuantity quantity pauseEvery replicates overridePause cutOnError =>
    ⟨"^PQ", [sent quantity, sent pauseEvery, sent replicates, sent overridePause,
      sent cutOnError]⟩
  | fieldOrigin x y justification => ⟨"^FO", [sent x, sent y, sent justification]⟩
  | fieldData data => ⟨"^FD", [sent data]⟩
  | fieldSeparator => ⟨"^FS", []⟩
  | defaultFieldOrientation orientation => ⟨"^FW", [sent orientation]⟩
  | fieldBlock width lines lineSpacing alignment hangingIndent =>
    ⟨"^FB", [sent width, sent lines, sent lineSpacing, sent alignment, sent hangingIndent]⟩
  | font face height width => ⟨"^A", [sent face, sent height, sent width]⟩
  | fontAt orientation height width path =>
    ⟨"^A@", [sent orientation, sent height, sent width, sent path]⟩
  | changeAlphanumericFont face height width => ⟨"^CF", [sent face, sent height, sent width]⟩
  | code128Barcode orientation height interpretationLine lineAbove checkDigit mode =>
    ⟨"^BC", [sent orientation, sent height, sent interpretationLine, sent lineAbove,
      sent checkDigit, sent mode]⟩
  | code39Barcode orientation checkDigit height interpretationLine lineAbove =>
    ⟨"^B3", [sent orientation, sent checkDigit, sent height, sent interpretationLine,
      sent lineAbove]⟩
  | barcodeFieldDefault moduleWidth ratio height =>
    ⟨"^BY", [sent moduleWidth, sent ratio, sent height]⟩
  | graphicBox width height thickness color rounding =>
    ⟨"^GB", [sent width, sent height, sent thickness, sent color, sent rounding]⟩
  | graphicCircle diameter thickness color => ⟨"^GC", [sent diameter, sent thickness, sent color]⟩
  | graphicDiagonalLine width height thickness color orientation =>
    ⟨"^GD", [sent width, sent height, sent thickness, sent color, sent orientation]⟩
  | graphicEllipse width height thickness color =>
    ⟨"^GE", [sent width, sent height, sent thickness, sent color]⟩
  | graphicField format dataBytes totalBytes rowBytes data =>
    ⟨"^GF", [sent format, sent dataBytes, sent totalBytes, sent rowBytes, sent data]⟩

theorem row_opcode (i : Instruction) : i.row.opcode = i.opcode := by
  cases i <;> rfl

theorem row_arguments (i : Instruction) : i.row.arguments = i.slots.map Slot.text? := by
  cases i <;> simp [row, slots]

theorem text?_eq_row (i : Instruction) : (Command.builtin i).text? = some i.row.text := by
  have h : (Command.builtin i).text? = some (i.opcode ++ i.arguments) :=
    Command.text?_eq i.opcode_ne_empty
  rw [h, Row.text, row_opcode, row_arguments, arguments, Command.arguments,
    Command.texts, Command.slots]

end Instruction
end Zpl
