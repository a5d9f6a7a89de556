import Mathlib.Data.List.ReduceOption
import Zpl.Command.Basic
import Zpl.Proofs.Text.Pieces

namespace Zpl

def Slot.isPresent (s : Slot) : Bool :=
  s.value.isSome

def Slot.text? (s : Slot) : Option String :=
  s.value.map Value.wire

theorem Instruction.opcode_ne_empty (i : Instruction) : i.opcode ≠ "" := by
  cases i <;> simp [opcode]

namespace Command

def texts (c : Command) : List String :=
  (c.slots.map Slot.text?).reduceOption

def arguments (c : Command) : String :=
  ",".intercalate c.texts

variable {c c' : Command}

theorem texts_eq_map_wire (c : Command) : c.texts = c.values.map Value.wire := by
  rw [texts, List.reduceOption, List.filterMap_map, values, List.map_filterMap]
  rfl

theorem foldl_wire_eq (out : String) (v : Value) (vs : List Value) :
    vs.foldl (fun out v => out ++ "," ++ v.wire) (out ++ v.wire) =
      out ++ ",".intercalate ((v :: vs).map Value.wire) := by
  induction vs generalizing out v
  case nil => simp
  case cons w ws hi =>
    have h := hi (out ++ v.wire ++ ",") w
    simp only [List.foldl_cons, h, List.map_cons, String.intercalate_cons_cons]
    simp only [String.append_assoc]

theorem writeValues_eq (out : String) (vs : List Value) :
    writeValues out vs = out ++ ",".intercalate (vs.map Value.wire) := by
  cases vs
  case nil       => simp [writeValues]
  case cons v vs => exact foldl_wire_eq out v vs

theorem writeTo?_eq (h : c.opcode ≠ "") (out : String) :
    c.writeTo? out = some (out ++ c.opcode ++ c.arguments) := by
  simp only [writeTo?, h, if_false, writeValues_eq, arguments, texts_eq_map_wire]

theorem text?_eq (h : c.opcode ≠ "") : c.text? = some (c.opcode ++ c.arguments) := by
  simp [text?, writeTo?_eq h]

theorem values_eq_filter_isPresent (c : Command) :
    c.values = (c.slots.filter Slot.isPresent).filterMap (·.value) := by
  rw [values, List.filterMap_filter]
  congr 1
  funext s
  cases h : s.value <;> simp [Slot.isPresent, h]

theorem arguments_of_filter_isPresent_eq
    (h : c'.slots.filter Slot.isPresent = c.slots.filter Slot.isPresent) :
    c'.arguments = c.arguments := by
  simp only [arguments, texts_eq_map_wire, values_eq_filter_isPresent, h]

theorem toList_arguments (c : Command) :
    c.arguments.toList = [','].intercalate (c.texts.map String.toList) := by
  simp [arguments, String.toList_intercalate]

theorem count_arguments_eq (h : ∀ t ∈ c.texts, ',' ∉ t.toList) :
    c.arguments.toList.count ',' = c.texts.length - 1 := by
  rw [toList_arguments, Text.count_intercalate <| by simpa using h, List.length_map]

theorem splitOn_arguments_eq (h : ∀ t ∈ c.texts, ',' ∉ t.toList) (hne : c.texts ≠ []) :
    c.arguments.toList.splitOn ',' = c.texts.map String.toList := by
  rw [toList_arguments, List.splitOn_intercalate _ (by simpa using h) (by simpa using hne)]

-- Slots without a value leave no trace, wherever they are, and when no value has a comma in it, the
-- commas that are sent are those between the values.
theorem writeTo?_joins_texts (h : c.opcode ≠ "") (out : String) :
    c.writeTo? out = some (out ++ c.opcode ++ ",".intercalate c.texts) ∧
    (∀ c' : Command, c'.opcode = c.opcode →
      c'.slots.filter Slot.isPresent = c.slots.filter Slot.isPresent →
      c'.writeTo? out = c.writeTo? out) ∧
    ∀ arguments, c.writeTo? out = some (out ++ c.opcode ++ arguments) →
      (∀ t ∈ c.texts, ',' ∉ t.toList) →
      arguments.toList.count ',' = c.texts.length - 1 ∧
      (c.texts ≠ [] → arguments.toList.splitOn ',' = c.texts.map String.toList) := by
  refine ⟨writeTo?_eq h out, ?absent, ?commas⟩
  case absent =>
    intro c' ho hs
    rw [writeTo?_eq (ho ▸ h), writeTo?_eq h, ho, arguments_of_filter_isPresent_eq hs]
  case commas =>
    intro arguments ha ht
    rw [writeTo?_eq h, Option.some.injEq, String.append_right_inj] at ha
    subst ha
    exact ⟨count_arguments_eq ht, splitOn_arguments_eq ht⟩

theorem writeTo?_joins_texts_of_gaps :
    let slots := [.int "b" (-1), .text "c" "", .flag "d" true]
    let c     := custom "^ZZ" <| [Slot.int? "a" none] ++ slots ++ [.flag? "e" none]
    c.writeTo? "^XA" = (custom "^ZZ" slots).writeTo? "^XA" ∧
      c.writeTo? "^XA" = some "^XA^ZZ-1,,Y" ∧
      "-1,,Y".toList.count ',' = 2 ∧
      "-1,,Y".toList.splitOn ',' = [['-', '1'], [], ['Y']] := by
  intro slots c
  have hc : c.opcode ≠ "" := by decide
  have ht : ∀ t ∈ c.texts, ',' ∉ t.toList := by decide
  have ⟨joined, absent, commas⟩ := writeTo?_joins_texts hc "^XA"
  have ⟨hcount, hsplit⟩ := commas "-1,,Y" joined ht
  exact ⟨(absent (custom "^ZZ" slots) rfl rfl).symm, joined, hcount, hsplit <| by decide⟩

end Command
end Zpl
