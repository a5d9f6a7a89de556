import Mathlib.Data.List.Nodup
import Zpl.Proofs.Command.Arguments
import Zpl.Proofs.Text.Number

namespace Zpl

namespace OptionSet

variable [OptionSet α]

theorem code_injective : Function.Injective (code (α := α)) :=
  fun a b => List.inj_on_of_nodup_map nodup_codes (mem_all a) (mem_all b)

def ofCode? (s : String) : Option α :=
  all.find? (code · == s)

theorem code_eq_of_ofCode? {a : α} (h : ofCode? s = some a) : code a = s := by
  simpa using List.find?_some h

@[simp]
theorem ofCode?_code (a : α) : ofCode? (code a) = some a := by
  have ⟨b, hb⟩ : ∃ b : α, ofCode? (code a) = some b := by
    apply Option.isSome_iff_exists.mp
    exact List.find?_isSome.mpr ⟨a, mem_all a, by simp⟩
  rw [hb, code_injective <| code_eq_of_ofCode? hb]

end OptionSet

namespace Text

def toFlag? : String → Option Bool
  | "Y" => some true
  | "N" => some false
  | _   => none

theorem toFlag?_wire (b : Bool) : toFlag? (Value.flag b).wire = some b := by
  cases b <;> rfl

def toChar? (s : String) : Option Char :=
  s.toList.head?

end Text

abbrev Reader (α : Type) := StateT (List String) Option α

namespace Reader

def next (read? : String → Option α) : Reader α := fun
  | []      => none
  | t :: ts => (read? t).map (·, ts)

def next? (read? : String → Option α) : Reader (Option α) := fun
  | []      => some (none, [])
  | t :: ts =>
    match read? t with
    | none   => some (none, t :: ts)
    | some a => some (some a, ts)

def int : Reader Int := next (Text.int? ·.toList)

def flag : Reader Bool := next Text.toFlag?

def char : Reader Char := next Text.toChar?

def text : Reader String := next some

def code [OptionSet α] : Reader α := next OptionSet.ofCode?

def int? : Reader (Option Int) := next? (Text.int? ·.toList)

def flag? : Reader (Option Bool) := next? Text.toFlag?

def code? [OptionSet α] : Reader (Option α) := next? OptionSet.ofCode?

variable {read? : String → Option α}

theorem next_run (h : read? t = some a) (ts : List String) :
    (next read?).run (t :: ts) = some (a, ts) := by
  simp [next, StateT.run, h]

theorem next?_run_some (h : read? t = some a) (ts : List String) :
    (next? read?).run (t :: ts) = some (some a, ts) := by
  simp [next?, StateT.run, h]

theorem next?_run_none (h : read? t = none) (ts : List String) :
    (next? read?).run (t :: ts) = some (none, t :: ts) := by
  simp [next?, StateT.run, h]

variable (ts : List String)

@[simp]
theorem int_run (n : Int) : int.run ((Value.int n).wire :: ts) = some (n, ts) :=
  next_run (Text.int?_toString n) ts

@[simp]
theorem flag_run (b : Bool) : flag.run ((Value.flag b).wire :: ts) = some (b, ts) :=
  next_run (Text.toFlag?_wire b) ts

@[simp]
theorem char_run (c : Char) : char.run ((Value.char c).wire :: ts) = some (c, ts) :=
  next_run (by simp [Text.toChar?, Value.wire]) ts

@[simp]
theorem text_run (s : String) : text.run ((Value.text s).wire :: ts) = some (s, ts) :=
  next_run rfl ts

@[simp]
theorem code_run [OptionSet α] (a : α) : code.run ((Value.ofOption a).wire :: ts) = some (a, ts) :=
  next_run (OptionSet.ofCode?_code a) ts

@[simp]
theorem int?_run_int (n : Int) : int?.run ((Value.int n).wire :: ts) = some (some n, ts) :=
  next?_run_some (Text.int?_toString n) ts

@[simp]
theorem int?_run_flag (b : Bool) :
    int?.run ((Value.flag b).wire :: ts) = some (none, (Value.flag b).wire :: ts) :=
  next?_run_none (by cases b <;> rfl) ts

@[simp]
theorem int?_run_nil : int?.run [] = some (none, []) :=
  rfl

@[simp]
theorem flag?_run_flag (b : Bool) : flag?.run ((Value.flag b).wire :: ts) = some (some b, ts) :=
  next?_run_some (Text.toFlag?_wire b) ts

@[simp]
theorem flag?_run_nil : flag?.run [] = some (none, []) :=
  rfl

@[simp]
theorem code?_run_code [OptionSet α] (a : α) :
    code?.run ((Value.ofOption a).wire :: ts) = some (some a, ts) :=
  next?_run_some (OptionSet.ofCode?_code a) ts

@[simp]
theorem code?_run_nil [OptionSet α] : (code? (α := α)).run [] = some (none, []) :=
  rfl

@[simp]
theorem color?_run_int (n : Int) :
    (code? (α := LineColor)).run ((Value.int n).wire :: ts) =
      some (none, (Value.int n).wire :: ts) := by
  apply next?_run_none
  cases h : OptionSet.ofCode? (α := LineColor) (Value.int n).wire
  case none => rfl
  case some a =>
    -- The code of a color would then be a number.
    have hn : Text.int? (OptionSet.code a).toList = some n :=
      OptionSet.code_eq_of_ofCode? h ▸ Text.int?_toString n
    have hc : Text.int? (OptionSet.code a).toList = none := by cases a <;> rfl
    simp [hn] at hc

@[simp]
theorem color?_run_leaning (o : DiagonalOrientation) :
    (code? (α := LineColor)).run ((Value.ofOption o).wire :: ts) =
      some (none, (Value.ofOption o).wire :: ts) :=
  next?_run_none (by cases o <;> rfl) ts

end Reader

namespace Instruction

open Reader in
def readers : List (String × Reader Instruction) :=
  [("^XA", pure startFormat),
   ("^XZ", pure endFormat),
   ("^PW", printWidth <$> int),
   ("^LH", labelHome <$> int <*> int),
   ("^LS", labelShift <$> int),
   ("^LL", labelLength <$> int),
   ("^MM", @mediaMode <$> code <*> code),
   ("^PR", printRate <$> code <*> int),
   ("^MD", mediaDarkness <$> int),
   ("^PQ", printQuantity <$> int <*> int? <*> int? <*> flag? <*> flag?),
   ("^FO", fieldOrigin <$> int <*> int <*> code?),
   ("^FD", fieldData <$> text),
   ("^FS", pure fieldSeparator),
   ("^FW", defaultFieldOrientation <$> code),
   ("^FB", fieldBlock <$> int <*> int <*> int <*> code <*> int),
   ("^A",  font <$> code <*> int <*> int),
   ("^A@", fontAt <$> code <*> int <*> int <*> text),
   ("^CF", changeAlphanumericFont <$> code <*> int <*> int),
   ("^BC", code128Barcode <$> code <*> int <*> flag <*> flag <*> flag <*> code),
   ("^B3", code39Barcode <$> code <*> flag <*> int <*> flag <*> flag),
   ("^BY", barcodeFieldDefault <$> int <*> int <*> int),
   ("^GB", graphicBox <$> int <*> int <*> int <*> code? <*> int?),
   ("^GC", graphicCircle <$> int <*> int <*> code?),
   ("^GD", graphicDiagonalLine <$> int <*> int <*> int <*> code? <*> code?),
   ("^GE", graphicEllipse <$> int <*> int <*> int <*> code?),
   ("^GF", graphicField <$> char <*> int <*> int <*> int <*> text)]

def ofTexts? (opcode : String) (texts : List String) : Option Instruction :=
  (readers.lookup opcode).bind fun reader => (reader.run texts).map Prod.fst

-- Moves each of the optional counts and flags to the front of its kind.
def packed : Instruction → Instruction
  | printQuantity quantity pauseEvery replicates overridePause cutOnError =>
    let counts := [pauseEvery, replicates].reduceOption
    let flags := [overridePause, cutOnError].reduceOption
    printQuantity quantity counts[0]? counts[1]? flags[0]? flags[1]?
  | i => i

theorem ofTexts?_of_lookup (h : readers.lookup op = some reader) (texts : List String) :
    ofTexts? op texts = (reader.run texts).map Prod.fst := by
  simp [ofTexts?, h]

theorem ofTexts?_texts (i : Instruction) : ofTexts? i.opcode i.texts = some i.packed := by
  cases i
  all_goals
    rw [ofTexts?_of_lookup rfl]
    simp [texts_eq, slots, packed, Slot.int, Slot.flag, Slot.text, Slot.char, Slot.option]
  case printQuantity quantity pauseEvery replicates overridePause cutOnError =>
    cases pauseEvery <;> cases replicates <;> cases overridePause <;> cases cutOnError <;>
      simp [Slot.int?, Slot.flag?, List.reduceOption]
  case fieldOrigin x y justification =>
    cases justification <;> simp [Slot.option?]
  case graphicBox width height thickness color rounding =>
    cases color <;> cases rounding <;> simp [Slot.option?, Slot.int?]
  case graphicDiagonalLine width height thickness color orientation =>
    cases color <;> cases orientation <;> simp [Slot.option?]
  case graphicCircle diameter thickness color =>
    cases color <;> simp [Slot.option?]
  case graphicEllipse width height thickness color =>
    cases color <;> simp [Slot.option?]

-- Two prints of the same counts and flags, which need not stand in the same places.
inductive PrintsAlike : Instruction → Instruction → Prop
  | intro (counts : [p, r].reduceOption = [p', r'].reduceOption)
      (flags : [o, e].reduceOption = [o', e'].reduceOption) :
      PrintsAlike (printQuantity q p r o e) (printQuantity q p' r' o' e')

theorem reduceOption_pair_ext {a b a' b' : Option α}
    (h₀ : [a, b].reduceOption[0]? = [a', b'].reduceOption[0]?)
    (h₁ : [a, b].reduceOption[1]? = [a', b'].reduceOption[1]?) :
    [a, b].reduceOption = [a', b'].reduceOption := by
  cases a <;> cases b <;> cases a' <;> cases b' <;> simp_all [List.reduceOption]

theorem packed_eq_iff {i j : Instruction} : i.packed = j.packed ↔ i = j ∨ i.PrintsAlike j := by
  constructor
  case mp =>
    intro h
    unfold packed at h
    split at h <;> split at h
    · simp only [printQuantity.injEq] at h
      obtain ⟨rfl, p, r, o, e⟩ := h
      exact .inr ⟨reduceOption_pair_ext p r, reduceOption_pair_ext o e⟩
    · case _ hj => exact absurd h.symm <| hj _ _ _ _ _
    · case _ hi _ _ _ _ _ _ => exact absurd h <| hi _ _ _ _ _
    · exact .inl h
  case mpr =>
    rintro (rfl | ⟨counts, flags⟩)
    · rfl
    · simp only [packed, counts, flags]

def opcodeOf : List Char → List Char
  | '^' :: 'A' :: '@' :: _ => ['^', 'A', '@']
  | '^' :: 'A' :: _        => ['^', 'A']
  | cs                     => cs.take 3

theorem opcodeOf_text (i : Instruction) :
    opcodeOf (i.opcode ++ i.arguments).toList = i.opcode.toList := by
  cases i
  -- Only `^A` begins another opcode, and no font has an `@` for its code.
  case font face height width =>
    have h : (font face height width).arguments =
        OptionSet.code face ++ "," ++ ",".intercalate [toString height, toString width] :=
      String.intercalate_cons_cons
    cases face <;> simp [h, opcodeOf, opcode, OptionSet.code, Font.code]
  all_goals simp [opcodeOf, opcode]

theorem text?_builtin (i : Instruction) :
    (Command.builtin i).text? = some (i.opcode ++ i.arguments) :=
  Command.text?_eq i.opcode_ne_empty

theorem opcode_packed (i : Instruction) : i.packed.opcode = i.opcode := by
  cases i <;> rfl

theorem texts_packed (i : Instruction) : i.packed.texts = i.texts := by
  cases i
  case printQuantity quantity pauseEvery replicates overridePause cutOnError =>
    cases pauseEvery <;> cases replicates <;> cases overridePause <;> cases cutOnError <;> rfl
  all_goals rfl

variable {i j : Instruction}

theorem PrintsAlike.text?_eq (h : i.PrintsAlike j) :
    (Command.builtin i).text? = (Command.builtin j).text? := by
  have hp : i.packed = j.packed := packed_eq_iff.mpr <| .inr h
  have ho : i.opcode = j.opcode := by rw [←opcode_packed i, hp, opcode_packed]
  have ht : i.texts = j.texts := by rw [←texts_packed i, hp, texts_packed]
  simp only [text?_builtin, ho, Command.arguments, ht]

theorem opcode_eq_of_text?_eq (h : (Command.builtin i).text? = (Command.builtin j).text?) :
    i.opcode = j.opcode := by
  rw [text?_builtin, text?_builtin, Option.some.injEq] at h
  apply String.toList_inj.mp
  rw [←opcodeOf_text i, h, opcodeOf_text]

theorem texts_eq_of_arguments_eq (hi : i.Conforms) (hj : j.Conforms) (ho : i.opcode = j.opcode)
    (ha : i.arguments = j.arguments) : i.texts = j.texts := by
  have ⟨row, hr, _⟩ := hi
  have h : i.texts.map String.toList = j.texts.map String.toList := by
    rw [←pieces_arguments hi hr, ha, pieces_arguments hj (ho ▸ hr)]
  exact List.map_injective_iff.mpr (fun _ _ => String.toList_inj.mp) h

-- The wire text tells all accepted instructions apart, but for prints whose optional values moved
-- into the place of one that is missing.
theorem text?_eq_text?_iff (hi : i.violation? = none) (hj : j.violation? = none) :
    (Command.builtin i).text? = (Command.builtin j).text? ↔ i = j ∨ i.PrintsAlike j := by
  constructor
  case mp =>
    intro h
    have ho := opcode_eq_of_text?_eq h
    have ha : i.arguments = j.arguments := by
      simpa only [text?_builtin, ho, Option.some.injEq, String.append_right_inj] using h
    have hi := (violation?_eq_none_iff_conforms i).mp hi
    have hj := (violation?_eq_none_iff_conforms j).mp hj
    have ht := texts_eq_of_arguments_eq hi hj ho ha
    -- What is read from the texts is the instruction but for the places of its options.
    have hp : some i.packed = some j.packed := by
      rw [←ofTexts?_texts i, ho, ht, ofTexts?_texts]
    exact packed_eq_iff.mp <| Option.some.inj hp
  case mpr =>
    rintro (rfl | h)
    · rfl
    · exact h.text?_eq

theorem text?_eq_text?_iff_of_gaps :
    let print          := printQuantity 2 (some 5) none none (some true)
    let printAlike     := printQuantity 2 none (some 5) (some true) none
    let diagonal color := graphicDiagonalLine 3 4 1 color none
    let leaning        := graphicDiagonalLine 3 4 1 none (some .leftLeaning)
    print ≠ printAlike ∧ (Command.builtin print).text? = (Command.builtin printAlike).text? ∧
      ∀ color, (Command.builtin (diagonal color)).text? ≠ (Command.builtin leaning).text? := by
  intro print printAlike diagonal leaning
  refine ⟨by decide, ?alike, ?apart⟩
  case alike =>
    exact (text?_eq_text?_iff rfl rfl).mpr <| .inr ⟨rfl, rfl⟩
  case apart =>
    intro color h
    have h := (text?_eq_text?_iff rfl rfl).mp h
    rcases h with h | h
    · simp [diagonal, leaning] at h
    · cases h

end Instruction
end Zpl
