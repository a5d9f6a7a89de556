import Zpl.Proofs.Command.Payload

namespace Zpl

def Domain.isFilled : Domain → Bool
  | code codes => codes.all (· ≠ "")
  | text       => false
  | optional d => d.isFilled
  | _          => true

theorem Domain.Admits.wire_ne_empty {d : Domain} {v : Value} (h : d.Admits (some v))
    (hd : d.isFilled) : v.wire ≠ "" := by
  induction d
  case optional d hi => exact hi h hd
  all_goals cases v <;> simp only [Admits] at h
  case range.int n          => exact Text.toString_ne_empty n
  case flag.flag b          => cases b <;> simp [Value.wire]
  case letter.char c        => simp [Value.wire]
  case code.code codes s    => simpa [Value.wire] using List.all_eq_true.mp hd s h
  case filledText.text s    => exact h
  all_goals contradiction

theorem registry_isFilled_or_isFree :
    ∀ row ∈ registry, ∀ p ∈ row.2, p.domain.isFilled ∨ p.domain.isFree := by
  decide

theorem Command.length_texts (c : Command) :
    c.texts.length = (c.slots.filter Slot.isPresent).length := by
  rw [texts_eq_map_wire, values, List.length_map, List.length_filterMap_eq_countP,
    List.countP_eq_length_filter]
  rfl

namespace Instruction

variable {i : Instruction}

theorem payload?_of_empty_mem_texts (hi : i.Conforms) (h : "" ∈ i.texts) :
    i.payload? = some "" := by
  rw [texts, texts_eq] at h
  obtain ⟨v, hv, hw⟩ := List.mem_map.mp h
  obtain ⟨row, hr, p, hp, ha⟩ := exists_parameter_of_mem_values hi hv
  cases registry_isFilled_or_isFree row hr p hp
  case inl hf => exact absurd hw <| ha.wire_ne_empty hf
  case inr hf =>
    obtain ⟨s, rfl⟩ := ha.eq_text hf
    obtain rfl : s = "" := hw
    exact payload?_of_mem_values hv

theorem eq_of_payload?_eq_empty (h : i.violation? = none) (hp : i.payload? = some "") :
    i = fieldData "" ∨
      ∃ format data total row, i = graphicField format data total row "" := by
  cases i
  all_goals simp [payload?] at hp
  case fieldData    => simp [hp]
  case graphicField => simp [hp]
  case fontAt       => simp [hp, violation?, checks, Check.violation?] at h

theorem ne_empty_of_mem_dropLast_texts (h : i.violation? = none) :
    ∀ t ∈ i.texts.dropLast, t ≠ "" := by
  rintro _ ht rfl
  have hi := (violation?_eq_none_iff_conforms i).mp h
  have hp := payload?_of_empty_mem_texts hi <| List.dropLast_subset _ ht
  rcases eq_of_payload?_eq_empty h hp with rfl | ⟨format, data, total, row, rfl⟩
  -- The data of a field is all that is sent of it, that of a graphic comes last.
  · contradiction
  · have ht : "" ∈ [String.singleton format, toString data, toString total, toString row] := ht
    have hn (n : Int) : n.repr ≠ "" := Text.toString_ne_empty n
    simp [hn] at ht

theorem last_text_empty_iff (h : i.violation? = none) :
    i.texts.length ≠ 1 ∧ i.texts.getLast? = some "" ↔
      ∃ format data total row, i = graphicField format data total row "" := by
  constructor
  case mp =>
    rintro ⟨hl, he⟩
    have hi := (violation?_eq_none_iff_conforms i).mp h
    have hp := payload?_of_empty_mem_texts hi <| List.mem_of_getLast? he
    rcases eq_of_payload?_eq_empty h hp with rfl | hg
    · exact absurd rfl hl
    · exact hg
  case mpr =>
    rintro ⟨format, data, total, row, rfl⟩
    exact ⟨nofun, rfl⟩

-- Of the commas that are sent only the one behind the last value can be stray, and it is only when
-- that value is an empty graphic.
theorem commas_between_texts (h : i.violation? = none)
    (hp : ∀ s, i.payload? = some s → ',' ∉ s.toList) :
    ∃ arguments, (Command.builtin i).text? = some (i.opcode ++ arguments) ∧
      arguments.toList.head? ≠ some ',' ∧
      ¬[',', ','] <:+: arguments.toList ∧
      arguments.toList.count ',' = (i.slots.filter Slot.isPresent).length - 1 ∧
      (arguments.toList.getLast? = some ',' ↔
        ∃ format data total row, i = graphicField format data total row "") := by
  have hi := (violation?_eq_none_iff_conforms i).mp h
  have hc : ∀ t ∈ i.texts, ',' ∉ t.toList := not_mem_texts hi rfl hp
  have hl : ∀ l ∈ i.texts.map String.toList, ',' ∉ l := List.forall_mem_map.mpr hc
  have hne : ∀ l ∈ (i.texts.map String.toList).dropLast, l ≠ [] := by
    rw [←List.map_dropLast, List.forall_mem_map]
    intro t ht he
    exact ne_empty_of_mem_dropLast_texts h t ht <| String.toList_eq_nil_iff.mp he
  refine ⟨i.arguments, Command.text?_eq i.opcode_ne_empty, ?head, ?doubled, ?count, ?last⟩
  case head    => exact Command.toList_arguments _ ▸ Text.head?_intercalate_ne hl hne
  case doubled => exact Command.toList_arguments _ ▸ Text.not_infix_intercalate hl hne
  case count   => exact Command.length_texts (.builtin i) ▸ Command.count_arguments_eq hc
  case last =>
    rw [Command.toList_arguments, Text.getLast?_intercalate_eq_iff hl, ←last_text_empty_iff h]
    simp

theorem commas_between_texts_of_gaps :
    let print   := printQuantity 2 none (some 0) none (some false)
    let graphic := graphicField 'A' 1 2 3 "FF"
    (∃ arguments, (Command.builtin print).text? = some ("^PQ" ++ arguments) ∧
      arguments.toList.count ',' = 2 ∧ arguments.toList.getLast? ≠ some ',') ∧
    ∃ arguments, (Command.builtin graphic).text? = some ("^GF" ++ arguments) ∧
      arguments.toList.count ',' = 4 ∧ arguments.toList.getLast? ≠ some ',' := by
  intro print graphic
  obtain ⟨_, ht, _, _, hc, hl⟩ := commas_between_texts (i := print) rfl nofun
  obtain ⟨_, ht', _, _, hc', hl'⟩ :=
    commas_between_texts (i := graphic) rfl <| by simp [graphic, payload?]
  refine ⟨⟨_, ht, hc, fun h => ?_⟩, _, ht', hc', fun h => ?_⟩
  · obtain ⟨_, _, _, _, he⟩ := hl.mp h
    contradiction
  · obtain ⟨_, _, _, _, he⟩ := hl'.mp h
    simp [graphic] at he

-- No stray comma is what is meant to be, but a graphic without data ends with one.
theorem empty_graphic_ends_with_comma :
    let graphic := graphicField 'A' 1 1 1 ""
    graphic.violation? = none ∧ (∀ s, graphic.payload? = some s → ',' ∉ s.toList) ∧
      (Command.builtin graphic).text? = some "^GFA,1,1,1," ∧
      "A,1,1,1,".toList.getLast? = some ',' := by
  intro graphic
  exact ⟨rfl, by simp [graphic, payload?], by decide, by decide⟩

end Instruction
end Zpl
