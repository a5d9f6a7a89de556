import Zpl.Document.Methods
import Zpl.Proofs.Command.Row
import Zpl.Proofs.Document.Render

namespace Zpl.Document

variable {i : Instruction} {d : Document}

theorem emit_of_conforms (h : i.Conforms) (d : Document) :
    d.emit i = d.appendAll [.ofInstruction i] := by
  rw [emit, (Instruction.violation?_eq_none_iff_conforms i).mpr h]

theorem add_builtin_of_conforms (h : i.Conforms) (d : Document) :
    d.add (.builtin i) = d.appendAll [.ofInstruction i] := by
  have hv : (Command.builtin i).violation? = none :=
    (Instruction.violation?_eq_none_iff_conforms i).mpr h
  rw [add, hv, Element.ofInstruction]

theorem text?_appendAll (h : d.text? = some before) (ht : Element.text? e = some text) :
    (d.appendAll [e]).document.text? = some (before ++ text) := by
  have he : Element.renderAll? default [e] = some text := by
    simp [Element.renderAll?_singleton, ht, default, Separator.text]
  simp only [text?] at h ⊢
  simp [appendAll, Element.renderAll?_append, h, he]

-- One element is appended, and what is rendered grows by its row, whatever the arguments.
theorem emit_appends_row (h : i.Conforms) (d : Document) :
    d.make i = d.emit i ∧
    (d.emit i).result = .ok () ∧
    (d.emit i).document.elements = d.elements ++ [.ofInstruction i] ∧
    (d.add (.builtin i)).result = .ok () ∧
    (d.add (.builtin i)).document = (d.emit i).document ∧
    (Element.ofInstruction i).text? = some i.row.text ∧
    ((∀ e ∈ d.elements, e.IsWritable) →
      ∃ before, d.render.result = .ok before ∧
        (d.emit i).document.render.result = .ok (before ++ i.row.text)) := by
  have hm : d.make i = d.appendAll [.ofInstruction i] := by rw [make_eq_emit, emit_of_conforms h]
  rw [emit_of_conforms h, add_builtin_of_conforms h]
  have ht : (Element.ofInstruction i).text? = some i.row.text := i.text?_eq_row
  refine ⟨hm, rfl, rfl, rfl, rfl, ht, fun hw => ?_⟩
  have ⟨before, hb⟩ := exists_text? hw default
  exact ⟨before, renderWith_result_of_text? hb,
    renderWith_result_of_text? <| text?_appendAll hb ht⟩

theorem emit_appends_row_of_barcodes :
    let d : Document := ⟨[.raw "a", .ofInstruction (.printQuantity 1 none (some 0) none (some true))]⟩
    let code128 := Instruction.code128Barcode .bottom 5 true false true .uccEan
    let code39  := Instruction.code39Barcode .bottom false 5 true true
    d.render.result = .ok "a^PQ1,0,Y" ∧
      (d.emit code128).document.render.result = .ok "a^PQ1,0,Y^BCB,5,Y,N,Y,D" ∧
      (d.emit code39).document.render.result = .ok "a^PQ1,0,Y^B3B,N,5,Y,Y" := by
  intro d code128 code39
  have hw : ∀ e ∈ d.elements, e.IsWritable := by
    simp [d, Element.IsWritable, Element.ofInstruction, Command.opcode, Instruction.opcode]
  have hd : d.render.result = .ok "a^PQ1,0,Y" := by decide
  have h128 : code128.Conforms := (Instruction.violation?_eq_none_iff_conforms _).mp rfl
  have h39 : code39.Conforms := (Instruction.violation?_eq_none_iff_conforms _).mp rfl
  obtain ⟨_, _, _, _, _, _, grows⟩ := emit_appends_row h128 d
  obtain ⟨_, _, _, _, _, _, grows'⟩ := emit_appends_row h39 d
  obtain ⟨before, hb, h⟩ := grows hw
  obtain ⟨before', hb', h'⟩ := grows' hw
  obtain rfl : _ = before := Except.ok.inj <| hd.symm.trans hb
  obtain rfl : _ = before' := Except.ok.inj <| hd.symm.trans hb'
  exact ⟨hd, h, h'⟩

end Zpl.Document
