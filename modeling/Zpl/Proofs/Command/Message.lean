import Zpl.Proofs.Command.Refusal
import Zpl.Proofs.Text.Pieces
import Zpl.Proofs.Text.Quoted

namespace Zpl

namespace Text

def words (s : String) : List (List Char) :=
  s.toList.splitOn ' '

theorem words_injective : Function.Injective words := by
  intro s t h
  apply String.toList_inj.mp
  calc s.toList = [' '].intercalate (words s) := (List.intercalate_splitOn ' ').symm
    _ = [' '].intercalate (words t) := by rw [h]
    _ = t.toList := List.intercalate_splitOn ' '

theorem words_of_not_mem {s : String} (h : ' ' ∉ s.toList) : words s = [s.toList] :=
  List.splitOn_eq_singleton h

theorem words_append_space (s t : String) : words (s ++ " " ++ t) = words s ++ words t := by
  simp [words, List.splitOn_append_cons_self]

end Text

namespace Violation

def parameter : Violation → String
  | outOfRange _ parameter .. => parameter
  | notAChoice _ parameter .. => parameter
  | empty _ parameter         => parameter

def expected : Violation → String
  | notAChoice _ _ _ expected => expected
  | outOfRange .. | empty ..  => ""

def demand : Violation → String
  | outOfRange _ _ value lo hi =>
    "be between " ++ toString lo ++ " and " ++ toString hi ++ ", got " ++ toString value
  | notAChoice _ _ value expected => "be one of " ++ expected ++ ", got " ++ Text.quoted value
  | empty ..                      => "not be empty"

theorem message_eq (v : Violation) :
    v.message = v.command ++ " " ++ v.parameter ++ " " ++ "must" ++ " " ++ v.demand := by
  apply String.toList_inj.mp
  cases v <;> simp [message, command, parameter, demand]

-- The parts of the text can be told apart.
structure IsLegible (v : Violation) : Prop where
  command   : ' ' ∉ v.command.toList
  parameter : "must".toList ∉ Text.words v.parameter
  expected  : '"' ∉ v.expected.toList

theorem words_message {v : Violation} (h : v.IsLegible) :
    Text.words v.message =
      v.command.toList :: (Text.words v.parameter ++ "must".toList :: Text.words v.demand) := by
  have hm : Text.words "must" = ["must".toList] := Text.words_of_not_mem <| by decide
  simp [message_eq, Text.words_append_space, Text.words_of_not_mem h.command, hm]

theorem bounds_eq_of_demand_eq {lo hi n lo' hi' n' : Int}
    (h : (outOfRange opcode name n lo hi).demand = (outOfRange opcode' name' n' lo' hi').demand) :
    lo = lo' ∧ hi = hi' ∧ n = n' := by
  have h : (toString lo).toList ++ ' ' :: ("and ".toList ++ ((toString hi).toList ++ ',' ::
        (" got ".toList ++ (toString n).toList))) =
      (toString lo').toList ++ ' ' :: ("and ".toList ++ ((toString hi').toList ++ ',' ::
        (" got ".toList ++ (toString n').toList))) := by
    simpa [demand, ←String.toList_inj] using h
  -- Neither a space nor a comma is in a number.
  have not_mem {c : Char} (hc : Text.isBare c = false) (n : Int) : c ∉ (toString n).toList :=
    (Value.isBare_int n).not_mem hc
  have ⟨hlo, h⟩ := Text.append_cons_inj_of_not_mem (not_mem rfl lo) (not_mem rfl lo') h
  have ⟨hhi, h⟩ := Text.append_cons_inj_of_not_mem (not_mem rfl hi) (not_mem rfl hi') <|
    List.append_cancel_left h
  have hn := List.append_cancel_left h
  exact ⟨Text.toList_toString_injective hlo, Text.toList_toString_injective hhi,
    Text.toList_toString_injective hn⟩

theorem choice_eq_of_demand_eq (he : '"' ∉ (notAChoice opcode name s e).expected.toList)
    (he' : '"' ∉ (notAChoice opcode' name' s' e').expected.toList)
    (h : (notAChoice opcode name s e).demand = (notAChoice opcode' name' s' e').demand) :
    e = e' ∧ s = s' := by
  rw [expected] at he he'
  have h : (e.toList ++ ", got ".toList) ++ '"' :: (s.toList.flatMap Text.escape ++ ['"']) =
      (e'.toList ++ ", got ".toList) ++ '"' :: (s'.toList.flatMap Text.escape ++ ['"']) := by
    simpa [demand, Text.quoted, ←String.toList_inj] using h
  obtain ⟨he, hs⟩ := Text.append_cons_inj_of_not_mem (by simp [he]) (by simp [he']) h
  have he := List.append_cancel_right he
  have hs := Text.eq_of_flatMap_escape_eq <| List.append_cancel_right hs
  exact ⟨String.toList_inj.mp he, String.toList_inj.mp hs⟩

variable {v w : Violation}

theorem eq_of_demand_eq (hv : v.IsLegible) (hw : w.IsLegible) (hc : v.command = w.command)
    (hp : v.parameter = w.parameter) (h : v.demand = w.demand) : v = w := by
  cases v <;> cases w
  case outOfRange.outOfRange =>
    obtain ⟨rfl, rfl, rfl⟩ := bounds_eq_of_demand_eq h
    simpa using ⟨hc, hp⟩
  case notAChoice.notAChoice =>
    obtain ⟨rfl, rfl⟩ := choice_eq_of_demand_eq hv.expected hw.expected h
    simpa using ⟨hc, hp⟩
  case empty.empty => simpa using ⟨hc, hp⟩
  -- No two kinds of demand begin alike.
  all_goals simp [demand, ←String.toList_inj] at h

theorem eq_of_message_eq (hv : v.IsLegible) (hw : w.IsLegible) (h : v.message = w.message) :
    v = w := by
  have h : Text.words v.message = Text.words w.message := by rw [h]
  rw [words_message hv, words_message hw, List.cons.injEq] at h
  -- The parameter is what stands before the first "must".
  have ⟨hp, hd⟩ := Text.append_cons_inj_of_not_mem hv.parameter hw.parameter h.right
  exact eq_of_demand_eq hv hw (String.toList_inj.mp h.left) (Text.words_injective hp)
    (Text.words_injective hd)

end Violation

namespace Domain

def expected : Domain → String
  | letter choices => ", ".intercalate (choices.map String.singleton)
  | optional d     => d.expected
  | _              => ""

namespace Refuses

variable {d : Domain}

theorem parameter_eq (h : d.Refuses opcode name v w) : w.parameter = name := by
  induction h
  case optional hi => exact hi
  all_goals rfl

theorem expected_eq (h : d.Refuses opcode name v w) : w.expected = d.expected := by
  induction h
  case optional hi => exact hi
  all_goals rfl

theorem value_eq (h : d.Refuses opcode name v w) (h' : d.Refuses opcode name v' w) : v = v' := by
  induction h
  case optional hi =>
    cases h'
    case optional h' => exact hi h'
  case letter =>
    generalize he : Violation.notAChoice _ _ _ _ = w at h'
    cases h'
    simpa using he
  all_goals
    cases h'
    rfl

end Refuses
end Domain

theorem inspections_legible :
    ∀ row ∈ registry, ' ' ∉ row.1.toList ∧ ∀ q ∈ inspections row.1,
      "must".toList ∉ Text.words q.name ∧ '"' ∉ q.domain.expected.toList := by
  decide

theorem inspections_names_nodup :
    ∀ row ∈ registry, ((inspections row.1).map (·.name)).Nodup := by
  decide

namespace Instruction

variable {i j : Instruction}

theorem exists_row (i : Instruction) : ∃ row, (i.opcode, row) ∈ registry :=
  have ⟨row, hr, _⟩ := i.slots_shaped
  ⟨row, mem_registry_of_lookup hr⟩

theorem FirstOutside.mem_inspections (h : i.FirstOutside q v) : q ∈ inspections i.opcode := by
  have ⟨_, _, he, _⟩ := h.first
  simp [he]

theorem eq_of_name_eq (hq : q ∈ inspections i.opcode) (hq' : q' ∈ inspections i.opcode)
    (h : q.name = q'.name) : q = q' :=
  have ⟨row, hr⟩ := i.exists_row
  List.inj_on_of_nodup_map (inspections_names_nodup (i.opcode, row) hr) hq hq' h

theorem exists_firstOutside (hi : i.violation? = some v) (hj : j.violation? = some v) :
    i.opcode = j.opcode ∧ ∃ q x, i.FirstOutside q x ∧ j.FirstOutside q x := by
  have ⟨q, x, hq, hx⟩ := i.violation?_eq_some_iff.mp hi
  have ⟨q', x', hq', hx'⟩ := j.violation?_eq_some_iff.mp hj
  have ho : i.opcode = j.opcode := hx.command_eq.symm.trans hx'.command_eq
  have hn : q.name = q'.name := hx.parameter_eq.symm.trans hx'.parameter_eq
  obtain rfl : q = q' := eq_of_name_eq hq.mem_inspections (ho ▸ hq'.mem_inspections) hn
  obtain rfl : x = x' := hx.value_eq (ho ▸ hx')
  exact ⟨ho, q, x, hq, hq'⟩

end Instruction

namespace Violation

def Occurs (v : Violation) : Prop :=
  ∃ i : Instruction, i.violation? = some v

namespace Occurs

variable {v w : Violation}

theorem isLegible : v.Occurs → v.IsLegible := by
  intro ⟨i, hi⟩
  have ⟨q, x, hq, hx⟩ := i.violation?_eq_some_iff.mp hi
  have ⟨row, hr⟩ := i.exists_row
  have ⟨command, hl⟩ := inspections_legible (i.opcode, row) hr
  have ⟨parameter, expected⟩ := hl q hq.mem_inspections
  exact ⟨hx.command_eq ▸ command, hx.parameter_eq ▸ parameter, hx.expected_eq ▸ expected⟩

theorem eq_of_message_eq (hv : v.Occurs) (hw : w.Occurs) (h : v.message = w.message) : v = w :=
  Violation.eq_of_message_eq hv.isLegible hw.isLegible h

end Occurs
end Violation

namespace Instruction

theorem violation?_of_format (h : c ∉ ['A', 'B', 'C']) (dataBytes totalBytes rowBytes : Int)
    (data : String) :
    (graphicField c dataBytes totalBytes rowBytes data).violation? =
      some (.notAChoice "^GF" "format" (String.singleton c) "A, B, C") := by
  have hf : (Check.oneOf "format" c ['A', 'B', 'C']).violation? "^GF" =
      some (.notAChoice "^GF" "format" (String.singleton c) "A, B, C") :=
    Check.oneOf_violation?_eq_some_iff.mpr ⟨h, rfl⟩
  rw [violation?, checks, opcode, List.findSome?_cons, hf]

theorem format_message_eq_iff (hc : c ∉ ['A', 'B', 'C']) (hc' : c' ∉ ['A', 'B', 'C'])
    (b t r b' t' r' : Int) (data data' : String) :
    (graphicField c b t r data).violation?.map Violation.message =
      (graphicField c' b' t' r' data').violation?.map Violation.message ↔ c = c' := by
  have hv := violation?_of_format hc
  have hw := violation?_of_format hc'
  rw [hv, hw]
  refine ⟨fun h => ?_, fun h => h ▸ rfl⟩
  have he := Violation.Occurs.eq_of_message_eq ⟨_, hv 0 0 0 ""⟩ ⟨_, hw 0 0 0 ""⟩ <|
    Option.some.inj h
  simpa using he

end Instruction
end Zpl
