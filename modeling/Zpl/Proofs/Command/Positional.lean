import Zpl.Proofs.Command.Arguments

namespace Zpl

-- What each of `n` parameters is given when the text of a command is read.
def Command.positions (opcode : String) (n : Nat) (text : String) : List (Option String) :=
  let pieces := Text.pieces ',' n (text.toList.drop opcode.length)
  (List.range n).map fun k => pieces[k]?.map String.ofList

def HasGap (presence : List Bool) : Prop :=
  [false, true].Sublist presence

instance (presence : List Bool) : Decidable (HasGap presence) :=
  inferInstanceAs <| Decidable (List.Sublist ..)

namespace HasGap

@[simp]
theorem nil_iff : HasGap [] ↔ False := by
  simp [HasGap]

@[simp]
theorem singleton_iff : HasGap [a] ↔ False := by
  simp [HasGap, List.sublist_cons_iff]

@[simp]
theorem true_cons_iff : HasGap (true :: presence) ↔ HasGap presence := by
  simp [HasGap, List.sublist_cons_iff]

theorem false_cons_iff : HasGap (false :: presence) ↔ true ∈ presence := by
  simp only [HasGap, List.cons_sublist_cons, List.singleton_sublist]

@[simp]
theorem pair_iff : HasGap [a, b] ↔ a = false ∧ b = true := by
  cases a <;> simp [false_cons_iff]

end HasGap

theorem not_mem_map_isSome_iff {l : List (Option α)} :
    true ∉ l.map Option.isSome ↔ l.reduceOption = [] := by
  rw [List.reduceOption_eq_nil_iff]
  constructor
  case mp =>
    intro h
    refine ⟨l.length, List.eq_replicate_iff.mpr ⟨rfl, fun a ha => ?_⟩⟩
    by_contra hn
    exact h <| List.mem_map.mpr ⟨a, ha, Option.isSome_iff_ne_none.mpr hn⟩
  case mpr =>
    rintro ⟨n, rfl⟩
    simp

theorem range_map_reduceOption_eq_iff (l : List (Option α)) :
    (List.range l.length).map (l.reduceOption[·]?) = l ↔ ¬HasGap (l.map Option.isSome) := by
  induction l
  case nil => simp [HasGap]
  case cons a l hi =>
    rw [List.length_cons, List.range_succ_eq_map, List.map_cons, List.map_map]
    cases a
    case some a =>
      rw [List.reduceOption_cons_of_some, List.map_cons, Option.isSome_some, HasGap.true_cons_iff,
        ←hi]
      simp [Function.comp_def]
    case none =>
      -- The first place is given the next value that is present, so there may be none.
      rw [List.reduceOption_cons_of_none, List.map_cons, Option.isSome_none,
        HasGap.false_cons_iff, not_mem_map_isSome_iff]
      constructor
      case mp =>
        intro h
        simpa using (List.cons.inj h).left
      case mpr =>
        intro h
        have ⟨n, hl⟩ := (List.reduceOption_eq_nil_iff l).mp h
        rw [h, hl]
        simp [Function.comp_def, List.map_const']

namespace Instruction

-- The instructions whose values move up: a corner that is rounded or a line that leans, and whose
-- color is not given, and a print where an option is left out before one that is given.
inductive Shifts : Instruction → Prop
  | rounding : Shifts (graphicBox width height thickness none (some rounding))
  | leaning  : Shifts (graphicDiagonalLine width height thickness none (some orientation))
  | print    : HasGap [p.isSome, r.isSome, o.isSome, e.isSome] → Shifts (printQuantity q p r o e)

theorem shifts_iff_hasGap (i : Instruction) :
    i.Shifts ↔ HasGap (i.slots.map Slot.isPresent) := by
  constructor
  case mp =>
    rintro (_ | _ | h)
    all_goals simp [slots, Slot.isPresent, Slot.int, Slot.option?, Slot.int?, Slot.flag?]
    simpa using h
  case mpr =>
    intro h
    cases i
    all_goals
      simp [slots, Slot.isPresent, Slot.int, Slot.flag, Slot.text, Slot.char, Slot.option,
        Slot.option?, Slot.int?, Slot.flag?] at h
    case printQuantity => exact .print h
    case graphicBox color rounding =>
      obtain ⟨rfl, hr⟩ := h
      obtain ⟨r, hr⟩ := Option.isSome_iff_exists.mp hr
      exact hr ▸ .rounding
    case graphicDiagonalLine color orientation =>
      obtain ⟨rfl, ho⟩ := h
      obtain ⟨o, ho⟩ := Option.isSome_iff_exists.mp ho
      exact ho ▸ .leaning

theorem positions_eq {i : Instruction} (hi : i.Conforms) :
    Command.positions i.opcode i.slots.length (i.opcode ++ i.arguments) =
      (List.range i.slots.length).map ((i.slots.map Slot.text?).reduceOption[·]?) := by
  have ⟨row, hr, hf⟩ := hi
  have hd : (i.opcode ++ i.arguments).toList.drop i.opcode.length = i.arguments.toList := by
    rw [String.toList_append, List.drop_left' String.length_toList]
  have hp : Text.pieces ',' i.slots.length i.arguments.toList = i.texts.map String.toList :=
    hf.length_eq ▸ pieces_arguments hi hr
  simp only [Command.positions, hd, hp, Command.texts, Command.slots]
  simp [Function.comp_def]

-- The values of an accepted instruction arrive in their places unless one that is absent comes
-- before one that is present, which can be so for few.
theorem positions_eq_iff {i : Instruction} (h : i.violation? = none) :
    ∃ text, (Command.builtin i).text? = some text ∧
      (Command.positions i.opcode i.slots.length text = i.slots.map Slot.text? ↔
        ¬HasGap (i.slots.map Slot.isPresent)) ∧
      (Command.positions i.opcode i.slots.length text ≠ i.slots.map Slot.text? ↔ i.Shifts) := by
  have hi := (violation?_eq_none_iff_conforms i).mp h
  have hg := range_map_reduceOption_eq_iff (i.slots.map Slot.text?)
  have hs : (i.slots.map Slot.text?).map Option.isSome = i.slots.map Slot.isPresent := by
    simp [Function.comp_def, Slot.text?, Slot.isPresent]
  rw [List.length_map, ←positions_eq hi, hs] at hg
  exact ⟨_, Command.text?_eq i.opcode_ne_empty, hg,
    (not_iff_comm.mp hg.symm).trans i.shifts_iff_hasGap.symm⟩

-- Commas in the data of a graphic do no harm. The rounding of a box is taken for its color.
theorem positions_eq_iff_of_commas_and_gap :
    let graphic := graphicField 'A' 1 2 3 ",4,"
    let box     := graphicBox 5 6 7 none (some 8)
    Command.positions "^GF" 5 "^GFA,1,2,3,,4," = graphic.slots.map Slot.text? ∧
      Command.positions "^GB" 5 "^GB5,6,7,8" ≠ box.slots.map Slot.text? ∧
      Command.positions "^GB" 5 "^GB5,6,7,8" = [some "5", some "6", some "7", some "8", none] := by
  intro graphic box
  have hg : (Command.builtin graphic).text? = some "^GFA,1,2,3,,4," := by decide
  have hb : (Command.builtin box).text? = some "^GB5,6,7,8" := by decide
  have ⟨text, ht, reads, _⟩ := positions_eq_iff (i := graphic) rfl
  have ⟨text', ht', _, misreads⟩ := positions_eq_iff (i := box) rfl
  obtain rfl : _ = text := Option.some.inj <| hg.symm.trans ht
  obtain rfl : _ = text' := Option.some.inj <| hb.symm.trans ht'
  exact ⟨reads.mpr (by decide), misreads.mpr .rounding, by decide⟩

end Instruction
end Zpl
