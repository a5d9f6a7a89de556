import Zpl.Document.Json
import Zpl.Proofs.Document.Render
import Zpl.Proofs.Json.Reader

namespace Zpl

theorem map_eq_map_of_map_eq_map {f : α → β} {g : α → γ} (h : ∀ x y, f x = f y → g x = g y)
    {xs ys : List α} (he : xs.map f = ys.map f) : xs.map g = ys.map g :=
  map_eq_map_iff_forall₂.mpr <| (map_eq_map_iff_forall₂.mp he).imp h

theorem Value.wire_eq_of_toJson_eq {v v' : Value} (h : v.toJson = v'.toJson) :
    v.wire = v'.wire := by
  cases v <;> cases v' <;> simp_all [toJson, wire]

theorem Slot.text?_eq_of_toJson_eq (s s' : Slot) (h : s.toJson = s'.toJson) :
    s.text? = s'.text? := by
  have ⟨_, v⟩ := s
  have ⟨_, v'⟩ := s'
  cases v <;> cases v' <;> simp [toJson] at h
  case none.none => rfl
  case some.some => exact congrArg some <| Value.wire_eq_of_toJson_eq h.right

namespace Command

variable {c c' : Command}

theorem texts_eq_of_slotsToJson_eq (h : c.slotsToJson = c'.slotsToJson) : c.texts = c'.texts := by
  have ht := map_eq_map_of_map_eq_map Slot.text?_eq_of_toJson_eq <| Json.arr.inj h
  rw [texts, texts, ht]

theorem text?_congr (ho : c.opcode = c'.opcode) (ht : c.texts = c'.texts) : c.text? = c'.text? := by
  by_cases h : c.opcode = ""
  case pos => simp [text?, writeTo?, h, ←ho]
  case neg => rw [text?_eq h, text?_eq (ho ▸ h), arguments, arguments, ho, ht]

end Command

theorem Element.text?_eq_of_toJson_eq (e e' : Element) (h : e.toJson = e'.toJson) :
    e.text? = e'.text? := by
  cases e <;> cases e' <;> simp [toJson] at h
  case raw.raw         => rw [h]
  case command.command =>
    exact Command.text?_congr h.left <| Command.texts_eq_of_slotsToJson_eq h.right

namespace Document

variable {d d' : Document}

theorem toJson_eq_of_text_eq (h : d.json = d'.json ∨ d.dump = d'.dump) : d.toJson = d'.toJson := by
  cases h
  case inl h => exact Json.eq_of_compact_eq h
  case inr h => exact Json.eq_of_pretty_eq h

theorem map_text?_eq_of_toJson_eq (h : d.toJson = d'.toJson) :
    d.elements.map Element.text? = d'.elements.map Element.text? := by
  have he : d.elements.map Element.toJson = d'.elements.map Element.toJson := by
    simpa [toJson] using h
  exact map_eq_map_of_map_eq_map Element.text?_eq_of_toJson_eq he

theorem renderWith_result_congr (h : d.text? separator = d'.text? separator) :
    (d.renderWith separator).result = (d'.renderWith separator).result := by
  rw [renderWith, renderWith, h]
  cases d'.text? separator
  case none => rfl
  case some => rfl

-- Documents of one dump are sent alike, element by element, or cannot be sent because of the same
-- elements.
theorem renders_alike_of_dump_eq (h : d.json = d'.json ∨ d.dump = d'.dump) :
    List.Forall₂ (fun e e' => e.text? = e'.text?) d.elements d'.elements ∧
    ∀ separator, (d.renderWith separator).result = (d'.renderWith separator).result := by
  have ht := map_text?_eq_of_toJson_eq <| toJson_eq_of_text_eq h
  refine ⟨map_eq_map_iff_forall₂.mp ht, fun separator => ?_⟩
  exact renderWith_result_congr <| Element.renderAll?_congr ht separator

theorem renders_alike_of_dump_eq_of_kinds :
    let d  := Document.mk [.raw "^XA", .command <| .custom "^ZZ" [
      .text "a" "\"x\"", .int? "b" none, .char "c" 'y']]
    let d' := Document.mk [.raw "^XA", .command <| .custom "^ZZ" [
      ⟨"a", some (.code "\"x\"")⟩, .flag? "b" none, .text "c" "y"]]
    d ≠ d' ∧
      List.Forall₂ (fun e e' => e.text? = e'.text?) d.elements d'.elements ∧
      (d.renderWith .newline).result = .ok "^XA\n^ZZ\"x\",y\n" ∧
      (d'.renderWith .newline).result = .ok "^XA\n^ZZ\"x\",y\n" := by
  intro d d'
  have hj : d.json = d'.json := by rfl
  have hr : (d.renderWith .newline).result = .ok "^XA\n^ZZ\"x\",y\n" := by rfl
  have ⟨texts, results⟩ := renders_alike_of_dump_eq (.inl hj)
  exact ⟨by decide, texts, hr, (results .newline).symm.trans hr⟩

end Document
end Zpl
