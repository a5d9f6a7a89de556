import Mathlib.Data.List.Forall2
import Zpl.Command.Domain

namespace Zpl

inductive Domain where
  | range (lo hi : Int)
  | flag
  | letter (choices : List Char)
  | code (codes : List String)
  | text
  | filledText
  | optional (domain : Domain)

namespace Domain

def option (α : Type) [OptionSet α] : Domain :=
  code (OptionSet.all.map (OptionSet.code (α := α)))

@[simp]
def Admits : Domain → Option Value → Prop
  | range lo hi, some (.int n)     => lo ≤ n ∧ n ≤ hi
  | flag, some (.flag _)           => True
  | letter choices, some (.char c) => c ∈ choices
  | code codes, some (.code s)     => s ∈ codes
  | text, some (.text _)           => True
  | filledText, some (.text s)     => s ≠ ""
  | optional _, none               => True
  | optional d, some v             => d.Admits (some v)
  | _, _                           => False

@[simp]
theorem option_admits [OptionSet α] (a : α) : (option α).Admits (some (.ofOption a)) :=
  List.mem_map_of_mem (OptionSet.mem_all a)

@[simp]
theorem optional_option_admits [OptionSet α] (a : Option α) :
    (optional (option α)).Admits (a.map .ofOption) := by
  cases a <;> simp

@[simp]
theorem optional_flag_admits (b : Option Bool) : (optional flag).Admits (b.map .flag) := by
  cases b <;> simp

@[simp]
theorem optional_range_admits_iff (n : Option Int) :
    (optional (range lo hi)).Admits (n.map .int) ↔ ∀ m, n = some m → lo ≤ m ∧ m ≤ hi := by
  cases n <;> simp

end Domain

structure Parameter where
  key    : String
  domain : Domain

@[simp]
def Parameter.Takes (p : Parameter) (s : Slot) : Prop :=
  s.key = p.key ∧ p.domain.Admits s.value

open Domain in
def registry : List (String × List Parameter) :=
  [("^XA", []),
   ("^XZ", []),
   ("^PW", [⟨"a", range 2 32000⟩]),
   ("^LH", [⟨"x", range 0 32000⟩, ⟨"y", range 0 32000⟩]),
   ("^LS", [⟨"a", range (-9999) 9999⟩]),
   ("^LL", [⟨"y", range 1 32000⟩]),
   ("^MM", [⟨"a", option PrintMode⟩, ⟨"b", option PreprintedLabelHandling⟩]),
   ("^PR", [⟨"s", option PrintSpeed⟩, ⟨"d", range 0 30⟩]),
   ("^MD", [⟨"a", range (-30) 30⟩]),
   ("^PQ", [⟨"q", range 1 99999999⟩, ⟨"p", optional (range 0 99999999)⟩,
            ⟨"r", optional (range 0 99999999)⟩, ⟨"o", optional flag⟩, ⟨"e", optional flag⟩]),
   ("^FO", [⟨"x", range 0 32000⟩, ⟨"y", range 0 32000⟩,
            ⟨"z", optional (option FieldJustification)⟩]),
   ("^FD", [⟨"a", text⟩]),
   ("^FS", []),
   ("^FW", [⟨"o", option FieldOrientation⟩]),
   ("^FB", [⟨"a", range 0 9999⟩, ⟨"b", range 1 9999⟩, ⟨"c", range (-9999) 9999⟩,
            ⟨"d", option TextAlignment⟩, ⟨"e", range 0 9999⟩]),
   ("^A",  [⟨"f", option Font⟩, ⟨"h", range 10 32000⟩, ⟨"w", range 10 32000⟩]),
   ("^A@", [⟨"o", option FieldOrientation⟩, ⟨"h", range 10 32000⟩, ⟨"w", range 10 32000⟩,
            ⟨"d", filledText⟩]),
   ("^CF", [⟨"f", option Font⟩, ⟨"h", range 0 32000⟩, ⟨"w", range 0 32000⟩]),
   ("^BC", [⟨"o", option FieldOrientation⟩, ⟨"h", range 1 32000⟩, ⟨"f", flag⟩, ⟨"g", flag⟩,
            ⟨"e", flag⟩, ⟨"m", option Code128Mode⟩]),
   ("^B3", [⟨"o", option FieldOrientation⟩, ⟨"e", flag⟩, ⟨"h", range 1 32000⟩, ⟨"f", flag⟩,
            ⟨"g", flag⟩]),
   ("^BY", [⟨"w", range 1 10⟩, ⟨"r", range 2 3⟩, ⟨"h", range 1 32000⟩]),
   ("^GB", [⟨"w", range 1 32000⟩, ⟨"h", range 1 32000⟩, ⟨"t", range 1 32000⟩,
            ⟨"c", optional (option LineColor)⟩, ⟨"r", optional (range 0 8)⟩]),
   ("^GC", [⟨"d", range 3 4095⟩, ⟨"t", range 1 4095⟩, ⟨"c", optional (option LineColor)⟩]),
   ("^GD", [⟨"w", range 3 32000⟩, ⟨"h", range 3 32000⟩, ⟨"t", range 1 32000⟩,
            ⟨"c", optional (option LineColor)⟩, ⟨"o", optional (option DiagonalOrientation)⟩]),
   ("^GE", [⟨"w", range 3 4095⟩, ⟨"h", range 3 4095⟩, ⟨"t", range 2 4095⟩,
            ⟨"c", optional (option LineColor)⟩]),
   ("^GF", [⟨"a", letter ['A', 'B', 'C']⟩, ⟨"b", range 1 99999999⟩, ⟨"c", range 1 99999999⟩,
            ⟨"d", range 1 99999⟩, ⟨"data", text⟩])]

theorem mem_registry_of_lookup (h : registry.lookup opcode = some row) :
    (opcode, row) ∈ registry := by
  have ⟨_, _, he, _⟩ := List.lookup_eq_some_iff.mp h
  simp [he]

namespace Check

@[simp]
theorem within_violation?_eq_none_iff :
    (within parameter value lo hi).violation? opcode = none ↔ lo ≤ value ∧ value ≤ hi := by
  simp [violation?]

@[simp]
theorem oneOf_violation?_eq_none_iff :
    (oneOf parameter letter choices).violation? opcode = none ↔ letter ∈ choices := by
  simp [violation?]

@[simp]
theorem filled_violation?_eq_none_iff :
    (filled parameter text).violation? opcode = none ↔ text ≠ "" := by
  simp [violation?]

@[simp]
theorem within?_violation?_eq_none_iff :
    (∀ c ∈ within? parameter value lo hi, c.violation? opcode = none) ↔
      ∀ n, value = some n → lo ≤ n ∧ n ≤ hi := by
  cases value <;> simp [within?]

end Check

namespace Instruction

def Conforms (i : Instruction) : Prop :=
  ∃ row, registry.lookup i.opcode = some row ∧ List.Forall₂ Parameter.Takes row i.slots

theorem conforms_iff_of_lookup {i : Instruction} (h : registry.lookup i.opcode = some row) :
    i.Conforms ↔ List.Forall₂ Parameter.Takes row i.slots := by
  simp [Conforms, h]

theorem violation?_eq_none_iff_forall_checks (i : Instruction) :
    i.violation? = none ↔ ∀ c ∈ i.checks, c.violation? i.opcode = none := by
  simp [violation?]

theorem violation?_eq_none_iff_conforms (i : Instruction) : i.violation? = none ↔ i.Conforms := by
  cases i
  all_goals
    rw [violation?_eq_none_iff_forall_checks, conforms_iff_of_lookup rfl]
    simp [checks, slots, maxDots, maxCount, Slot.int, Slot.flag, Slot.text, Slot.char, Slot.option,
      Slot.int?, Slot.flag?, Slot.option?]
  case printQuantity => simp [or_imp, forall_and]
  case fontAt        => tauto

end Instruction
end Zpl
