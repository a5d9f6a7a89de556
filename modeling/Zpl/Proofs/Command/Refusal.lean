import Mathlib.Algebra.Group.Int.Defs
import Zpl.Proofs.Command.Slots

namespace Zpl

-- The parameters that can be refused, in the order in which they are looked at: their keys and the
-- names by which they are reported.
def inspected : List (String × List (String × String)) :=
  [("^PW", [("a", "width")]),
   ("^LH", [("x", "x"), ("y", "y")]),
   ("^LS", [("a", "shift")]),
   ("^LL", [("y", "length")]),
   ("^PR", [("d", "darkness")]),
   ("^MD", [("a", "darkness")]),
   ("^PQ", [("q", "quantity"), ("p", "pause count"), ("r", "replicates")]),
   ("^FO", [("x", "x"), ("y", "y")]),
   ("^FB", [("a", "width"), ("b", "lines"), ("c", "line spacing"), ("e", "hanging indent")]),
   ("^A",  [("h", "height"), ("w", "width")]),
   ("^A@", [("d", "font path"), ("h", "height"), ("w", "width")]),
   ("^CF", [("h", "height"), ("w", "width")]),
   ("^BC", [("h", "height")]),
   ("^B3", [("h", "height")]),
   ("^BY", [("w", "module width"), ("r", "ratio"), ("h", "height")]),
   ("^GB", [("w", "width"), ("h", "height"), ("t", "thickness"), ("r", "rounding")]),
   ("^GC", [("d", "diameter"), ("t", "thickness")]),
   ("^GD", [("w", "width"), ("h", "height"), ("t", "thickness")]),
   ("^GE", [("w", "width"), ("h", "height"), ("t", "thickness")]),
   ("^GF", [("a", "format"), ("b", "data bytes"), ("c", "total bytes"), ("d", "row bytes")])]

structure Inspection extends Parameter where
  name : String

def inspections (opcode : String) : List Inspection :=
  let row := (registry.lookup opcode).getD []
  ((inspected.lookup opcode).getD []).filterMap fun (key, name) =>
    (row.find? (·.key == key)).map (⟨·, name⟩)

namespace Check

theorem within_violation?_eq_some_iff :
    (within parameter value lo hi).violation? opcode = some w ↔
      (value < lo ∨ hi < value) ∧ .outOfRange opcode parameter value lo hi = w := by
  simp [violation?]

theorem oneOf_violation?_eq_some_iff :
    (oneOf parameter letter choices).violation? opcode = some w ↔
      letter ∉ choices ∧ .notAChoice opcode parameter (String.singleton letter)
        (", ".intercalate (choices.map String.singleton)) = w := by
  simp [violation?]

theorem filled_violation?_eq_some_iff :
    (filled parameter text).violation? opcode = some w ↔
      text = "" ∧ .empty opcode parameter = w := by
  simp [violation?]

end Check

namespace Domain

def canRefuse : Domain → Bool
  | range .. | letter _ | filledText => true
  | flag | code _ | text             => false
  | optional d                       => d.canRefuse

-- The value is of the domain's kind but outside of it, for which there is the violation.
inductive Refuses (opcode name : String) : Domain → Value → Violation → Prop
  | range : n < lo ∨ hi < n →
      Refuses opcode name (range lo hi) (.int n) (.outOfRange opcode name n lo hi)
  | letter : c ∉ choices →
      Refuses opcode name (letter choices) (.char c) (.notAChoice opcode name (String.singleton c)
        (", ".intercalate (choices.map String.singleton)))
  | empty : Refuses opcode name filledText (.text "") (.empty opcode name)
  | optional : Refuses opcode name d v violation → Refuses opcode name (optional d) v violation

theorem refuses_optional_iff :
    (optional d).Refuses opcode name v w ↔ d.Refuses opcode name v w :=
  ⟨fun | .optional h => h, .optional⟩

def check? (name : String) : Domain → Option Value → Option Check
  | range lo hi, some (.int n)     => some (.within name n lo hi)
  | letter choices, some (.char c) => some (.oneOf name c choices)
  | filledText, some (.text s)     => some (.filled name s)
  | optional d, some v             => d.check? name (some v)
  | _, _                           => none

def violation? (opcode name : String) (d : Domain) (v? : Option Value) : Option Violation :=
  (d.check? name v?).bind (·.violation? opcode)

@[simp]
def Fits : Domain → Option Value → Prop
  | range .., some (.int _)    => True
  | flag, some (.flag _)       => True
  | letter _, some (.char _)   => True
  | code codes, some (.code s) => s ∈ codes
  | text, some (.text _)       => True
  | filledText, some (.text _) => True
  | optional _, none           => True
  | optional d, some v         => d.Fits (some v)
  | _, _                       => False

@[simp]
theorem optional_range_fits (n : Option Int) : (optional (range lo hi)).Fits (n.map .int) := by
  cases n <;> simp

@[simp]
theorem option_fits [OptionSet α] (a : α) : (option α).Fits (some (.ofOption a)) :=
  option_admits a

@[simp]
theorem optional_option_fits [OptionSet α] (a : Option α) :
    (optional (option α)).Fits (a.map .ofOption) := by
  cases a <;> simp

@[simp]
theorem optional_flag_fits (b : Option Bool) : (optional flag).Fits (b.map .flag) := by
  cases b <;> simp

variable {opcode name : String} {d : Domain}

theorem violation?_eq_none_iff (h : d.Fits v?) :
    d.violation? opcode name v? = none ↔ d.Admits v? := by
  induction d
  case optional d hi =>
    cases v?
    case none   => exact iff_of_true rfl trivial
    case some v => exact hi h
  all_goals
    cases v?
    case none   => contradiction
    case some v => cases v <;> simp_all [violation?, check?]

theorem violation?_eq_some_iff :
    d.violation? opcode name v? = some w ↔ ∃ v, v? = some v ∧ d.Refuses opcode name v w := by
  cases v?
  case none => cases d <;> simp [violation?, check?]
  case some v =>
    simp only [Option.some.injEq, exists_eq_left']
    induction d
    case optional d hi => exact hi.trans refuses_optional_iff.symm
    all_goals cases v
    case range.int lo hi n =>
      exact Check.within_violation?_eq_some_iff.trans
        ⟨fun ⟨h, hw⟩ => hw ▸ .range h, fun | .range h => ⟨h, rfl⟩⟩
    case letter.char choices c =>
      exact Check.oneOf_violation?_eq_some_iff.trans
        ⟨fun ⟨h, hw⟩ => hw ▸ .letter h, fun | .letter h => ⟨h, rfl⟩⟩
    case filledText.text s =>
      exact Check.filled_violation?_eq_some_iff.trans
        ⟨fun ⟨h, hw⟩ => h ▸ hw ▸ .empty, fun | .empty => ⟨rfl, rfl⟩⟩
    -- No other domain refuses, and no value is checked that is not of the domain's kind.
    all_goals exact iff_of_false nofun nofun

end Domain

def Parameter.Shapes (p : Parameter) (s : Slot) : Prop :=
  s.key = p.key ∧ p.domain.Fits s.value

theorem Parameter.given_fits {key : String} (h : List.Forall₂ Shapes row slots)
    (hp : row.find? (·.key == key) = some p) : p.domain.Fits (Slot.given slots key) := by
  induction h
  case nil => contradiction
  case cons p' s _ _ hs _ hi =>
    by_cases hk : p'.key = key
    case pos =>
      obtain rfl : p' = p := by simpa [hk] using hp
      simpa [Slot.given, hs.left, hk] using hs.right
    case neg =>
      have hp := hi <| by simpa [hk] using hp
      simpa [Slot.given, hs.left, hk] using hp

theorem find?_of_mem_inspections (h : registry.lookup opcode = some row)
    (hq : q ∈ inspections opcode) : row.find? (·.key == q.key) = some q.toParameter := by
  simp only [inspections, h, Option.getD_some, List.mem_filterMap, Option.map_eq_some_iff] at hq
  obtain ⟨⟨key, name⟩, _, p, hp, rfl⟩ := hq
  have hk : p.key = key := by simpa using List.find?_some hp
  exact hk ▸ hp

theorem inspections_keys :
    ∀ row ∈ registry, (inspections row.1).map (·.key) =
      if row.1 = "^A@" then ["d", "h", "w"]
      else (row.2.filter (·.domain.canRefuse)).map (·.key) := by
  decide

namespace Instruction

def given (i : Instruction) : String → Option Value :=
  Slot.given i.slots

theorem violation?_eq (i : Instruction) :
    i.violation? = (inspections i.opcode).findSome? fun q =>
      q.domain.violation? i.opcode q.name (i.given q.key) := by
  cases i
  -- What is not given has no check at all here, and one that it passes in the row.
  case printQuantity quantity pauseEvery replicates overridePause cutOnError =>
    cases pauseEvery <;> cases replicates <;> rfl
  case graphicBox width height thickness color rounding =>
    cases rounding <;> rfl
  all_goals rfl

theorem slots_shaped (i : Instruction) :
    ∃ row, registry.lookup i.opcode = some row ∧ List.Forall₂ Parameter.Shapes row i.slots := by
  cases i
  all_goals
    refine ⟨_, rfl, ?_⟩
    simp [slots, Parameter.Shapes, Slot.int, Slot.flag, Slot.text, Slot.char, Slot.option,
      Slot.int?, Slot.flag?, Slot.option?]

theorem given_fits (i : Instruction) (hq : q ∈ inspections i.opcode) :
    q.domain.Fits (i.given q.key) := by
  have ⟨row, hr, hs⟩ := i.slots_shaped
  exact Parameter.given_fits hs <| find?_of_mem_inspections hr hq

-- The parameter is the first to be looked at whose value is outside of its domain.
structure FirstOutside (i : Instruction) (q : Inspection) (v : Value) : Prop where
  first   : ∃ before after, inspections i.opcode = before ++ q :: after ∧
    ∀ p ∈ before, p.domain.Admits (i.given p.key)
  given   : i.given q.key = some v
  outside : ¬q.domain.Admits (some v)

-- Arguments are numbers of 32 bits, with a sign or without.
def IsNative (i : Instruction) : Prop :=
  ∀ n, .int n ∈ (Command.builtin i).values → -2 ^ 31 ≤ n ∧ n < 2 ^ 32

theorem mem_values_of_given {i : Instruction} (h : i.given key = some v) :
    v ∈ (Command.builtin i).values := by
  have ⟨s, hs, hv⟩ := Option.bind_eq_some_iff.mp h
  exact List.mem_filterMap.mpr ⟨s, List.mem_of_find?_eq_some hs, hv⟩

theorem violation?_eq_some_iff (i : Instruction) :
    i.violation? = some w ↔
      ∃ q v, i.FirstOutside q v ∧ q.domain.Refuses i.opcode q.name v w := by
  have passes (q : Inspection) (hq : q ∈ inspections i.opcode) :
      q.domain.violation? i.opcode q.name (i.given q.key) = none ↔
        q.domain.Admits (i.given q.key) :=
    Domain.violation?_eq_none_iff <| i.given_fits hq
  rw [violation?_eq, List.findSome?_eq_some_iff]
  constructor
  case mp =>
    intro ⟨before, q, after, he, hw, hb⟩
    have hm : q ∈ inspections i.opcode := by simp [he]
    have hbefore (p : Inspection) (hp : p ∈ before) : p ∈ inspections i.opcode := by simp [he, hp]
    have ⟨v, hv, hr⟩ := Domain.violation?_eq_some_iff.mp hw
    refine ⟨q, v, ⟨⟨before, after, he, ?first⟩, hv, ?outside⟩, hr⟩
    case first   => exact fun p hp => (passes p <| hbefore p hp).mp <| hb p hp
    case outside => simp [←hv, ←passes q hm, hw]
  case mpr =>
    intro ⟨q, v, ⟨⟨before, after, he, hb⟩, hv, _⟩, hr⟩
    have hbefore (p : Inspection) (hp : p ∈ before) : p ∈ inspections i.opcode := by simp [he, hp]
    refine ⟨before, q, after, he, Domain.violation?_eq_some_iff.mpr ⟨v, hv, hr⟩, ?_⟩
    exact fun p hp => (passes p <| hbefore p hp).mpr <| hb p hp

end Instruction

namespace Domain.Refuses

variable {d : Domain}

theorem command_eq (h : d.Refuses opcode name v w) : w.command = opcode := by
  induction h
  case optional hi => exact hi
  all_goals rfl

theorem outOfRange (h : d.Refuses opcode name v (.outOfRange command parameter n lo hi)) :
    v = .int n ∧ parameter = name ∧ (n < lo ∨ hi < n) ∧
      ∀ m, d.Admits (some (.int m)) ↔ lo ≤ m ∧ m ≤ hi := by
  induction d
  case optional d hi =>
    cases h
    case optional h => exact hi h
  all_goals cases h
  case range h => exact ⟨rfl, rfl, h, fun m => .rfl⟩

end Domain.Refuses

theorem Domain.Fits.admits_none {d : Domain} (h : d.Fits none) : d.Admits none := by
  cases d
  case optional => trivial
  all_goals contradiction

namespace Instruction

-- An instruction is accepted if it is as its row says. Otherwise the first parameter is reported
-- that is outside of its domain, in the order of the row, where only the path of a font is moved to
-- the front.
theorem refused_for_first_outside (i : Instruction) :
    (i.violation? = none ↔ i.Conforms) ∧
    (∀ w, i.violation? = some w ↔
      ∃ q v, i.FirstOutside q v ∧ q.domain.Refuses i.opcode q.name v w) ∧
    (∀ row, registry.lookup i.opcode = some row → (inspections i.opcode).map (·.key) =
      if i.opcode = "^A@" then ["d", "h", "w"]
      else (row.filter (·.domain.canRefuse)).map (·.key)) ∧
    (∀ w, i.violation? = some w → w.command = i.opcode) ∧
    (∀ command name n lo hi, i.violation? = some (.outOfRange command name n lo hi) →
      (∃ q, i.FirstOutside q (.int n) ∧ q.name = name ∧ (n < lo ∨ hi < n) ∧
        ∀ m, q.domain.Admits (some (.int m)) ↔ lo ≤ m ∧ m ≤ hi) ∧
      (i.IsNative → (Int64.ofInt n).toInt = n)) ∧
    (∀ q ∈ inspections i.opcode, i.given q.key = none → q.domain.Admits none) ∧
    (∀ q ∈ inspections i.opcode, ∀ d, q.domain = .optional d → ∀ v,
      (q.domain.Admits (some v) ↔ d.Admits (some v)) ∧
      ∀ w, q.domain.Refuses i.opcode q.name v w ↔ d.Refuses i.opcode q.name v w) ∧
    ofSlots? i.opcode i.slots = some i := by
  refine ⟨i.violation?_eq_none_iff_conforms, fun w => i.violation?_eq_some_iff,
    fun row hr => ?order, fun w h => ?command, fun command name n lo hi h => ?range,
    fun q hq hg => ?absent, fun q hq d hd v => ?present, i.ofSlots?_slots⟩
  case order =>
    have ⟨_, _, he, _⟩ := List.lookup_eq_some_iff.mp hr
    exact inspections_keys (i.opcode, row) <| by simp [he]
  case command =>
    have ⟨_, _, _, hw⟩ := i.violation?_eq_some_iff.mp h
    exact hw.command_eq
  case range =>
    have ⟨q, v, hq, hw⟩ := i.violation?_eq_some_iff.mp h
    obtain ⟨rfl, rfl, hn, hm⟩ := hw.outOfRange
    refine ⟨⟨q, hq, rfl, hn, hm⟩, fun hi => ?_⟩
    have ⟨hlo, hhi⟩ := hi n <| mem_values_of_given hq.given
    exact Int64.toInt_ofInt_of_le (by omega) (by omega)
  case absent => exact (hg ▸ i.given_fits hq).admits_none
  case present =>
    rw [hd]
    exact ⟨.rfl, fun w => Domain.refuses_optional_iff⟩

theorem refused_for_first_outside_of_several :
    let font    := fontAt .normal 9 32001 ""
    let graphic := graphicField 'X' 0 100000000 0 ""
    let print   := printQuantity 1 (some 4294967295) (some 100000000) none none
    font.violation? = some (.empty "^A@" "font path") ∧
      graphic.violation? = some (.notAChoice "^GF" "format" "X" "A, B, C") ∧
      print.violation? = some (.outOfRange "^PQ" "pause count" 4294967295 0 99999999) ∧
      (Int64.ofInt 4294967295).toInt = 4294967295 ∧
      (printQuantity 1 none none none none).violation? = none := by
  intro font graphic print
  obtain ⟨_, font_refused, _⟩ := refused_for_first_outside font
  obtain ⟨_, graphic_refused, _⟩ := refused_for_first_outside graphic
  obtain ⟨_, print_refused, _, _, print_range, _⟩ := refused_for_first_outside print
  obtain ⟨accepted, _⟩ := refused_for_first_outside (printQuantity 1 none none none none)
  let pauseCount : Inspection := ⟨⟨"p", .optional (.range 0 99999999)⟩, "pause count"⟩
  have hp : print.violation? = some (.outOfRange "^PQ" "pause count" 4294967295 0 99999999) := by
    refine (print_refused _).mpr ⟨pauseCount, _, ⟨⟨[_], _, rfl, ?first⟩, rfl, by simp [pauseCount]⟩,
      .optional <| .range <| .inr <| by decide⟩
    simp [print, given, Slot.given, slots, Slot.int]
  have hn : print.IsNative := by
    simp [print, IsNative, Command.values, Command.slots, slots, Slot.int, Slot.int?, Slot.flag?]
  refine ⟨?font, ?graphic, hp, (print_range _ _ _ _ _ hp).right hn, ?accepted⟩
  case font =>
    exact (font_refused _).mpr ⟨_, _, ⟨⟨[], _, rfl, List.forall_mem_nil _⟩, rfl, by simp⟩, .empty⟩
  case graphic =>
    exact (graphic_refused _).mpr
      ⟨_, _, ⟨⟨[], _, rfl, List.forall_mem_nil _⟩, rfl, by simp⟩, .letter (by simp)⟩
  case accepted =>
    refine accepted.mpr ⟨_, rfl, ?_⟩
    simp [slots, Slot.int, Slot.int?, Slot.flag?]

end Instruction
end Zpl
