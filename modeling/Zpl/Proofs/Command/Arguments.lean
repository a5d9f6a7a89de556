import Zpl.Proofs.Command.Registry
import Zpl.Proofs.Command.Wire
import Zpl.Proofs.Text.Bare

namespace Zpl

def Value.IsBare (v : Value) : Prop :=
  ∀ c ∈ v.wire.toList, Text.isBare c

namespace Value

theorem IsBare.not_mem {v : Value} (h : v.IsBare) (hc : Text.isBare c = false) :
    c ∉ v.wire.toList :=
  fun hm => by simp [h c hm] at hc

theorem isBare_int (n : Int) : (int n).IsBare :=
  Text.isBare_of_mem_toString n

theorem isBare_flag (b : Bool) : (flag b).IsBare := by
  cases b <;> simp [IsBare, wire, Text.isBare]

theorem isBare_char (h : Text.isBare c) : (char c).IsBare := by
  simpa [IsBare, wire] using h

end Value

namespace Domain

def isBare : Domain → Bool
  | range .. | flag   => true
  | letter choices    => choices.all Text.isBare
  | code codes        => codes.all (·.toList.all Text.isBare)
  | text | filledText => false
  | optional d        => d.isBare

def isRequired : Domain → Bool
  | optional _ => false
  | _          => true

theorem Admits.isBare {d : Domain} {v : Value} (h : d.Admits (some v)) (hd : d.isBare) :
    v.IsBare := by
  induction d
  case optional d hi => exact hi h hd
  all_goals cases v <;> simp only [Admits] at h
  case range.int lo hi n        => exact Value.isBare_int n
  case flag.flag b              => exact Value.isBare_flag b
  case letter.char choices c    => exact Value.isBare_char <| List.all_eq_true.mp hd c h
  case code.code codes s        => exact List.all_eq_true.mp <| List.all_eq_true.mp hd s h
  all_goals contradiction

theorem Admits.isSome_of_isRequired {d : Domain} (h : d.Admits v?) (hd : d.isRequired) :
    ∃ v, v? = some v := by
  cases v?
  case none   => cases d <;> simp_all [isRequired]
  case some v => exact ⟨v, rfl⟩

end Domain

-- The first parameter is required. Only the last may take any text, and then all are required.
def Parameter.tidy (row : List Parameter) : Bool :=
  row.head?.all (·.domain.isRequired) &&
    (row.all (·.domain.isBare) ||
      row.dropLast.all (·.domain.isBare) && row.all (·.domain.isRequired))

theorem registry_tidy : ∀ row ∈ registry, Parameter.tidy row.2 := by
  decide

theorem tidy_of_lookup (h : registry.lookup opcode = some row) : Parameter.tidy row :=
  registry_tidy (opcode, row) <| mem_registry_of_lookup h

theorem exists_mem_of_forall₂ {R : α → β → Prop} (h : List.Forall₂ R as bs) (hb : b ∈ bs) :
    ∃ a ∈ as, R a b := by
  induction h
  case nil => contradiction
  case cons a _ _ _ hr _ hi =>
    cases hb
    case head    => exact ⟨a, List.mem_cons_self, hr⟩
    case tail hb =>
      have ⟨a', ha, hr⟩ := hi hb
      exact ⟨a', List.mem_cons_of_mem _ ha, hr⟩

namespace Parameter

variable {row : List Parameter} {slots : List Slot}

theorem values_isBare (h : List.Forall₂ Takes row slots) (hb : ∀ p ∈ row, p.domain.isBare) :
    ∀ v ∈ slots.filterMap (·.value), v.IsBare := by
  intro v hv
  have ⟨s, hs, hsv⟩ := List.mem_filterMap.mp hv
  have ⟨p, hp, ht⟩ := exists_mem_of_forall₂ h hs
  exact Domain.Admits.isBare (hsv ▸ ht.right) <| hb p hp

theorem values_of_required (h : List.Forall₂ Takes row slots)
    (hr : ∀ p ∈ row, p.domain.isRequired) :
    List.Forall₂ (fun p v => p.domain.Admits (some v)) row (slots.filterMap (·.value)) := by
  induction h
  case nil => exact .nil
  case cons p s row slots hp _ hi =>
    have hi := hi fun p hm => hr p <| List.mem_cons_of_mem _ hm
    have ⟨v, hv⟩ := hp.right.isSome_of_isRequired <| hr p List.mem_cons_self
    simpa [List.filterMap_cons, hv] using ⟨hv ▸ hp.right, hi⟩

theorem length_values_le (h : List.Forall₂ Takes row slots) :
    (slots.filterMap (·.value)).length ≤ row.length :=
  h.length_eq ▸ List.length_filterMap_le ..

theorem values_isBare_of_tidy (h : List.Forall₂ Takes row slots) (ht : tidy row) :
    (∀ v ∈ (slots.filterMap (·.value)).dropLast, v.IsBare) ∧
    ((slots.filterMap (·.value)).length < row.length →
      ∀ v ∈ slots.filterMap (·.value), v.IsBare) := by
  simp only [tidy, Bool.and_eq_true, Bool.or_eq_true, List.all_eq_true] at ht
  cases ht.right
  -- If there can be commas in a value, it is the last, and no value is missing.
  case inl hb =>
    have hv := values_isBare h hb
    exact ⟨fun v hm => hv v <| List.dropLast_subset _ hm, fun _ => hv⟩
  case inr hb =>
    have hv := values_of_required h hb.right
    have hl := hv.length_eq
    have hd := List.forall₂_take (row.length - 1) hv
    rw [←List.dropLast_eq_take, hl, ←List.dropLast_eq_take] at hd
    refine ⟨fun v hm => ?_, fun hlt => absurd hl hlt.ne'⟩
    have ⟨p, hp, ha⟩ := exists_mem_of_forall₂ hd hm
    exact ha.isBare <| hb.left p hp

theorem values_ne_nil (h : List.Forall₂ Takes row slots) (ht : tidy row) (hne : row ≠ []) :
    slots.filterMap (·.value) ≠ [] := by
  cases h
  case nil => contradiction
  case cons p s row slots hp _ =>
    have hr : p.domain.isRequired := by simp [tidy] at ht; exact ht.left
    have ⟨v, hv⟩ := hp.right.isSome_of_isRequired hr
    simp [hv]

end Parameter

namespace Instruction

abbrev texts (i : Instruction) : List String :=
  (Command.builtin i).texts

abbrev arguments (i : Instruction) : String :=
  (Command.builtin i).arguments

theorem texts_eq (i : Instruction) :
    (Command.builtin i).texts = (i.slots.filterMap (·.value)).map Value.wire :=
  Command.texts_eq_map_wire _

variable {i : Instruction} {row : List Parameter}

theorem pieces_arguments (hi : i.Conforms) (h : registry.lookup i.opcode = some row) :
    Text.pieces ',' row.length i.arguments.toList = i.texts.map String.toList := by
  have hf := (conforms_iff_of_lookup h).mp hi
  have ht := tidy_of_lookup h
  by_cases hr : row = []
  case pos =>
    have hs : i.slots = [] := by simpa [hr] using hf
    simp [hr, hs, Text.pieces, texts_eq]
  case neg =>
    have hb := Parameter.values_isBare_of_tidy hf ht
    have not_mem (v : Value) (h : v.IsBare) : ',' ∉ v.wire.toList := h.not_mem rfl
    rw [Command.toList_arguments, texts, texts_eq]
    apply Text.pieces_intercalate
    · simpa using Parameter.values_ne_nil hf ht hr
    · simpa using Parameter.length_values_le hf
    · simp only [List.map_map, ←List.map_dropLast, List.forall_mem_map]
      exact fun v hv => not_mem v <| hb.left v hv
    · simp only [List.map_map, List.length_map, List.forall_mem_map]
      exact fun hlt v hv => not_mem v <| hb.right hlt v hv

end Instruction
end Zpl
