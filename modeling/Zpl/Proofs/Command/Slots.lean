import Mathlib.Data.Option.Basic
import Zpl.Proofs.Command.Reading

namespace Zpl

namespace Value

@[simp]
def toInt? : Value → Option Int
  | int n => some n
  | _     => none

@[simp]
def toFlag? : Value → Option Bool
  | flag b => some b
  | _      => none

@[simp]
def toChar? : Value → Option Char
  | char c => some c
  | _      => none

@[simp]
def toText? : Value → Option String
  | text s => some s
  | _      => none

def toOption? [OptionSet α] : Value → Option α
  | code s => OptionSet.ofCode? s
  | _      => none

@[simp]
theorem toOption?_ofOption [OptionSet α] (a : α) : (ofOption a).toOption? = some a :=
  OptionSet.ofCode?_code a

@[simp]
theorem mapM_toInt? (n : Option Int) : (n.map int).mapM toInt? = some n := by
  cases n <;> rfl

@[simp]
theorem mapM_toFlag? (b : Option Bool) : (b.map flag).mapM toFlag? = some b := by
  cases b <;> rfl

@[simp]
theorem mapM_toOption? [OptionSet α] (a : Option α) : (a.map ofOption).mapM toOption? = some a := by
  cases a <;> simp

end Value

def Slot.given (slots : List Slot) (key : String) : Option Value :=
  (slots.find? (·.key == key)).bind value

abbrev Query (α : Type) := ReaderT (List Slot) Option α

namespace Query

def required (read? : Value → Option α) (key : String) : Query α :=
  fun slots => (Slot.given slots key).bind read?

def optional (read? : Value → Option α) (key : String) : Query (Option α) :=
  fun slots => (Slot.given slots key).mapM read?

abbrev int : String → Query Int := required Value.toInt?

abbrev flag : String → Query Bool := required Value.toFlag?

abbrev char : String → Query Char := required Value.toChar?

abbrev text : String → Query String := required Value.toText?

abbrev code [OptionSet α] : String → Query α := required Value.toOption?

abbrev int? : String → Query (Option Int) := optional Value.toInt?

abbrev flag? : String → Query (Option Bool) := optional Value.toFlag?

abbrev code? [OptionSet α] : String → Query (Option α) := optional Value.toOption?

variable (slots : List Slot) (key : String)

@[simp]
theorem required_run (read? : Value → Option α) :
    (required read? key).run slots = (Slot.given slots key).bind read? :=
  rfl

@[simp]
theorem optional_run (read? : Value → Option α) :
    (optional read? key).run slots = (Slot.given slots key).mapM read? :=
  rfl

end Query

namespace Instruction

open Query in
def queries : List (String × Query Instruction) :=
  [("^XA", pure startFormat),
   ("^XZ", pure endFormat),
   ("^PW", printWidth <$> int "a"),
   ("^LH", labelHome <$> int "x" <*> int "y"),
   ("^LS", labelShift <$> int "a"),
   ("^LL", labelLength <$> int "y"),
   ("^MM", @mediaMode <$> code "a" <*> code "b"),
   ("^PR", printRate <$> code "s" <*> int "d"),
   ("^MD", mediaDarkness <$> int "a"),
   ("^PQ", printQuantity <$> int "q" <*> int? "p" <*> int? "r" <*> flag? "o" <*> flag? "e"),
   ("^FO", fieldOrigin <$> int "x" <*> int "y" <*> code? "z"),
   ("^FD", fieldData <$> text "a"),
   ("^FS", pure fieldSeparator),
   ("^FW", defaultFieldOrientation <$> code "o"),
   ("^FB", fieldBlock <$> int "a" <*> int "b" <*> int "c" <*> code "d" <*> int "e"),
   ("^A",  font <$> code "f" <*> int "h" <*> int "w"),
   ("^A@", fontAt <$> code "o" <*> int "h" <*> int "w" <*> text "d"),
   ("^CF", changeAlphanumericFont <$> code "f" <*> int "h" <*> int "w"),
   ("^BC", code128Barcode <$> code "o" <*> int "h" <*> flag "f" <*> flag "g" <*> flag "e" <*>
      code "m"),
   ("^B3", code39Barcode <$> code "o" <*> flag "e" <*> int "h" <*> flag "f" <*> flag "g"),
   ("^BY", barcodeFieldDefault <$> int "w" <*> int "r" <*> int "h"),
   ("^GB", graphicBox <$> int "w" <*> int "h" <*> int "t" <*> code? "c" <*> int? "r"),
   ("^GC", graphicCircle <$> int "d" <*> int "t" <*> code? "c"),
   ("^GD", graphicDiagonalLine <$> int "w" <*> int "h" <*> int "t" <*> code? "c" <*> code? "o"),
   ("^GE", graphicEllipse <$> int "w" <*> int "h" <*> int "t" <*> code? "c"),
   ("^GF", graphicField <$> char "a" <*> int "b" <*> int "c" <*> int "d" <*> text "data")]

def ofSlots? (opcode : String) (slots : List Slot) : Option Instruction :=
  (queries.lookup opcode).bind (·.run slots)

theorem ofSlots?_of_lookup (h : queries.lookup op = some query) (slots : List Slot) :
    ofSlots? op slots = query.run slots := by
  simp [ofSlots?, h]

theorem ofSlots?_slots (i : Instruction) : ofSlots? i.opcode i.slots = some i := by
  cases i
  all_goals
    rw [ofSlots?_of_lookup rfl]
    simp [slots, Slot.given, Slot.int, Slot.flag, Slot.char, Slot.text, Slot.option, Slot.int?,
      Slot.flag?, Slot.option?]

end Instruction
end Zpl
