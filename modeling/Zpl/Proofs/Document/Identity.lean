import Zpl.Proofs.Command.Refusal
import Zpl.Proofs.Document.Json

namespace Zpl

theorem Domain.Fits.eq_of_toJson_eq {d : Domain} {v v' : Value} (h : d.Fits (some v))
    (h' : d.Fits (some v')) (hj : v.toJson = v'.toJson) : v = v' := by
  induction d
  case optional d hi => exact hi h h'
  all_goals cases v <;> cases v' <;> simp_all [Value.toJson]

namespace Parameter.Shapes

theorem eq_of_toJson_eq {p : Parameter} {s s' : Slot} (h : p.Shapes s) (h' : p.Shapes s')
    (hj : s.toJson = s'.toJson) : s = s' := by
  have ⟨_, v⟩ := s
  have ⟨_, v'⟩ := s'
  cases v <;> cases v' <;> simp [Slot.toJson] at hj
  case none.none => rw [hj]
  case some.some => rw [hj.left, h.right.eq_of_toJson_eq h'.right hj.right]

theorem eq_of_map_toJson_eq {row : List Parameter} {slots slots' : List Slot}
    (h : List.Forall₂ Parameter.Shapes row slots) (h' : List.Forall₂ Parameter.Shapes row slots')
    (hj : slots.map Slot.toJson = slots'.map Slot.toJson) : slots = slots' := by
  induction h generalizing slots'
  case nil =>
    cases h'
    rfl
  case cons hs _ hi =>
    cases h'
    case cons hs' h' =>
      have ⟨hj, hjs⟩ := List.cons.inj hj
      rw [hs.eq_of_toJson_eq hs' hj, hi h' hjs]

end Parameter.Shapes

namespace Instruction

variable {i j : Instruction}

theorem eq_of_slotsToJson_eq (ho : i.opcode = j.opcode)
    (hs : (Command.builtin i).slotsToJson = (Command.builtin j).slotsToJson) : i = j := by
  -- The same string can stand for a character, a text or a code: the row tells which it is.
  have ⟨row, hr, hi⟩ := i.slots_shaped
  have ⟨row', hr', hj⟩ := j.slots_shaped
  obtain rfl : row = row' := Option.some.inj <| hr.symm.trans <| ho ▸ hr'
  have hs : i.slots = j.slots := Parameter.Shapes.eq_of_map_toJson_eq hi hj <| Json.arr.inj hs
  have he : some i = some j := by rw [←i.ofSlots?_slots, ho, hs, ofSlots?_slots]
  exact Option.some.inj he

end Instruction

namespace Element

inductive IsBuiltin : Element → Prop
  | raw (text : String) : IsBuiltin (.raw text)
  | instruction (i : Instruction) : IsBuiltin (.ofInstruction i)

theorem ofInstruction_injective : Function.Injective ofInstruction :=
  fun _ _ h => Command.builtin.inj <| Element.command.inj h

theorem IsBuiltin.eq_of_toJson_eq {e e' : Element} (h : e.IsBuiltin) (h' : e'.IsBuiltin)
    (hj : e.toJson = e'.toJson) : e = e' := by
  cases h <;> cases h' <;> simp [toJson, ofInstruction, Command.opcode] at hj
  case raw.raw                 => rw [hj]
  case instruction.instruction => rw [Instruction.eq_of_slotsToJson_eq hj.left hj.right]

theorem eq_of_map_toJson_eq {es es' : List Element} (h : ∀ e ∈ es, e.IsBuiltin)
    (h' : ∀ e ∈ es', e.IsBuiltin) (hj : es.map toJson = es'.map toJson) : es = es' := by
  induction es generalizing es'
  case nil => simpa using hj.symm
  case cons e es hi =>
    match es' with
    | e' :: es' =>
      have ⟨he, hes⟩ := List.forall_mem_cons.mp h
      have ⟨he', hes'⟩ := List.forall_mem_cons.mp h'
      have ⟨hj, hjs⟩ := List.cons.inj hj
      rw [he.eq_of_toJson_eq he' hj, hi hes hes' hjs]

end Element

theorem Instruction.PrintsAlike.renderAll?_eq {i j : Instruction} (h : i.PrintsAlike j)
    (es es' : List Element) (separator : Separator) :
    Element.renderAll? separator (es ++ .ofInstruction i :: es') =
      Element.renderAll? separator (es ++ .ofInstruction j :: es') := by
  apply Element.renderAll?_congr
  have ht : (Element.ofInstruction i).text? = (Element.ofInstruction j).text? := h.text?_eq
  simp [ht]

namespace Document

variable {d d' : Document}

theorem map_toJson_eq_of_toJson_eq (h : d.toJson = d'.toJson) :
    d.elements.map Element.toJson = d'.elements.map Element.toJson := by
  simpa [toJson] using h

theorem toJson_eq_iff (h : ∀ e ∈ d.elements, e.IsBuiltin) (h' : ∀ e ∈ d'.elements, e.IsBuiltin) :
    d.toJson = d'.toJson ↔ d.elements = d'.elements where
  mp hj  := Element.eq_of_map_toJson_eq h h' <| map_toJson_eq_of_toJson_eq hj
  mpr he := by rw [toJson, toJson, he]

-- Documents of texts and instructions have one dump only if they have the same elements, each with
-- the same arguments. So the dump tells apart even those prints that are sent alike.
theorem dump_eq_iff_elements_eq :
    (∀ d d' : Document, (∀ e ∈ d.elements, e.IsBuiltin) → (∀ e ∈ d'.elements, e.IsBuiltin) →
      (d.json = d'.json ↔ d.elements = d'.elements) ∧
      (d.dump = d'.dump ↔ d.elements = d'.elements)) ∧
    ∀ (i j : Instruction) (es es' : List Element), i.PrintsAlike j → i ≠ j →
      let d  := Document.mk (es ++ .ofInstruction i :: es')
      let d' := Document.mk (es ++ .ofInstruction j :: es')
      (∀ separator, d.text? separator = d'.text? separator) ∧ d.json ≠ d'.json ∧
        d.dump ≠ d'.dump := by
  refine ⟨fun d d' h h' => ⟨?json, ?dump⟩, fun i j es es' hp hne => ?prints⟩
  case json =>
    rw [←toJson_eq_iff h h']
    exact ⟨Json.eq_of_compact_eq, congrArg Json.compact⟩
  case dump =>
    rw [←toJson_eq_iff h h']
    exact ⟨Json.eq_of_pretty_eq, congrArg Json.pretty⟩
  case prints =>
    intro d d'
    have hj : d.toJson ≠ d'.toJson := by
      intro h
      have he := map_toJson_eq_of_toJson_eq h
      rw [List.map_append, List.map_append, List.append_cancel_left_eq] at he
      have hi := (Element.IsBuiltin.instruction i).eq_of_toJson_eq (.instruction j) <|
        (List.cons.inj he).left
      exact hne <| Element.ofInstruction_injective hi
    exact ⟨hp.renderAll?_eq es es', mt Json.eq_of_compact_eq hj, mt Json.eq_of_pretty_eq hj⟩

theorem dump_eq_iff_elements_eq_of_prints :
    let print := Instruction.printQuantity 2 (some 5) none none (some true)
    let alike := Instruction.printQuantity 2 none (some 5) (some true) none
    let d  : Document := ⟨[.raw "\",\"", .ofInstruction print]⟩
    let d' : Document := ⟨[.raw "\",\"", .ofInstruction alike]⟩
    d.text? .newline = d'.text? .newline ∧ d.json ≠ d'.json ∧ d.dump ≠ d'.dump ∧
      ∀ e : Document, (∀ x ∈ e.elements, x.IsBuiltin) → e.dump = d.dump → e.elements = d.elements := by
  intro print alike d d'
  have ⟨told, prints⟩ := dump_eq_iff_elements_eq
  have builtin (i : Instruction) : ∀ x ∈ [.raw "\",\"", .ofInstruction i], Element.IsBuiltin x :=
    List.forall_mem_cons.mpr ⟨.raw _, List.forall_mem_singleton.mpr <| .instruction i⟩
  have ⟨sent, _, dumped⟩ := prints print alike [.raw "\",\""] [] ⟨rfl, rfl⟩ (by decide)
  have ⟨json, _⟩ := told d d' (builtin print) (builtin alike)
  refine ⟨sent .newline, mt json.mp <| by decide, dumped, fun e he h => ?_⟩
  exact (told e d he <| builtin print).right.mp h

end Document
end Zpl
