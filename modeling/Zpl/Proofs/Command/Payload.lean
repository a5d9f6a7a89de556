import Zpl.Proofs.Command.Arguments

namespace Zpl

def Instruction.payload? : Instruction → Option String
  | fieldData data             => some data
  | fontAt _ _ _ path          => some path
  | graphicField _ _ _ _ data  => some data
  | _                          => none

def Domain.isFree : Domain → Bool
  | text | filledText => true
  | optional d        => d.isFree
  | _                 => false

theorem Domain.Admits.eq_text {d : Domain} {v : Value} (h : d.Admits (some v)) (hd : d.isFree) :
    ∃ s, v = .text s := by
  induction d
  case optional d hi => exact hi h hd
  all_goals cases v <;> simp_all [isFree]

theorem registry_isBare_or_isFree :
    ∀ row ∈ registry, ∀ p ∈ row.2, p.domain.isBare ∨ p.domain.isFree := by
  decide

namespace Instruction

variable {i : Instruction}

theorem payload?_of_mem_values (h : .text s ∈ (Command.builtin i).values) :
    i.payload? = some s := by
  cases i
  all_goals
    simp [Command.values, Command.slots, slots, Slot.int, Slot.flag, Slot.text, Slot.char,
      Slot.option, Slot.int?, Slot.flag?, Slot.option?, Value.ofOption] at h
  all_goals simp [payload?, h]

theorem exists_parameter_of_mem_values (hi : i.Conforms) (hv : v ∈ (Command.builtin i).values) :
    ∃ row ∈ registry, ∃ p ∈ row.2, p.domain.Admits (some v) := by
  have ⟨row, hr, hf⟩ := hi
  have ⟨slot, hs, hsv⟩ := List.mem_filterMap.mp hv
  have ⟨p, hp, ht⟩ := exists_mem_of_forall₂ hf hs
  exact ⟨(i.opcode, row), mem_registry_of_lookup hr, p, hp, hsv ▸ ht.right⟩

theorem isBare_or_eq_payload (hi : i.Conforms) (hv : v ∈ (Command.builtin i).values) :
    v.IsBare ∨ ∃ s, v = .text s ∧ i.payload? = some s := by
  have ⟨row, hr, p, hp, ha⟩ := exists_parameter_of_mem_values hi hv
  cases registry_isBare_or_isFree row hr p hp
  case inl hb => exact .inl <| ha.isBare hb
  case inr hb =>
    obtain ⟨s, rfl⟩ := ha.eq_text hb
    exact .inr ⟨s, rfl, payload?_of_mem_values hv⟩

theorem not_mem_texts (hi : i.Conforms) (hc : Text.isBare c = false)
    (hp : ∀ s, i.payload? = some s → c ∉ s.toList) : ∀ t ∈ i.texts, c ∉ t.toList := by
  rw [texts, texts_eq, List.forall_mem_map]
  intro v hv
  rcases isBare_or_eq_payload hi hv with hb | ⟨s, rfl, hs⟩
  · exact hb.not_mem hc
  · exact hp s hs

theorem not_mem_arguments (hi : i.Conforms) (hc : Text.isBare c = false) (hne : c ≠ ',')
    (hp : ∀ s, i.payload? = some s → c ∉ s.toList) : c ∉ i.arguments.toList := by
  rw [Command.toList_arguments]
  apply Text.not_mem_intercalate hne
  rw [List.forall_mem_map]
  exact not_mem_texts hi hc hp

end Instruction
end Zpl
