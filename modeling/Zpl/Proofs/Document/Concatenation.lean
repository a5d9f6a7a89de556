import Zpl.Proofs.Document.Render

namespace Zpl

namespace Element

theorem not_isWritable_iff {e : Element} :
    ¬e.IsWritable ↔ ∃ c, e = .command c ∧ c.opcode = "" := by
  cases e <;> simp [IsWritable]

theorem exists_not_isWritable_iff {es : List Element} :
    (∃ e ∈ es, ¬e.IsWritable) ↔ ∃ c, .command c ∈ es ∧ c.opcode = "" := by
  simp only [not_isWritable_iff]
  constructor
  · rintro ⟨_, he, c, rfl, hc⟩
    exact ⟨c, he, hc⟩
  · rintro ⟨c, he, hc⟩
    exact ⟨_, he, c, rfl, hc⟩

theorem exists_texts {es : List Element} (h : ∀ e ∈ es, e.IsWritable) :
    ∃ texts : List String, es.map text? = texts.map some := by
  have ⟨texts, ht⟩ := exists_mapM_text? h
  exact ⟨texts, mapM_eq_some_iff.mp ht⟩

theorem renderAll?_eq_none_iff (separator : Separator) (es : List Element) :
    renderAll? separator es = none ↔ ∃ e ∈ es, ¬e.IsWritable := by
  constructor
  case mpr =>
    intro h
    rw [renderAll?_eq, mapM_text?_eq_none h, Option.map_none]
  case mp =>
    intro h
    by_contra! hw
    have ⟨texts, ht⟩ := exists_texts hw
    simp [renderAll?_of_texts ht] at h

theorem foldlM_writeTo?_eq_renderAll? (es : List Element) (out : String) :
    es.foldlM writeTo? out = (renderAll? default es).map (out ++ ·) := by
  have hs : (default : Separator).text = "" := rfl
  have h := foldlM_writeTo?_eq default es out
  rw [renderAll?_eq, Option.map_map]
  simpa only [hs, String.append_empty, Option.map_id', Function.comp_def] using h

end Element

theorem Document.renderWith_result (d : Document) (separator : Separator) :
    (d.renderWith separator).result =
      (Element.renderAll? separator d.elements).elim (.error .emptyOpcode) .ok := by
  rw [renderWith, text?]
  cases Element.renderAll? separator d.elements <;> rfl

namespace Element

-- However a document is rendered, its text is that of its elements one behind the other, and there
-- is none just when a command, wherever it stands, has no opcode.
theorem renderAll?_concatenates (es : List Element) (separator : Separator) :
    ((∀ c, .command c ∈ es → c.opcode ≠ "") →
      ∃ texts : List String, es.map text? = texts.map some ∧
        renderAll? separator es = some (String.join (texts.map (· ++ separator.text)))) ∧
    (renderAll? separator es = none ↔ ∃ c, .command c ∈ es ∧ c.opcode = "") ∧
    (∀ es' text text', renderAll? separator es = some text → renderAll? separator es' = some text' →
      renderAll? separator (es ++ es') = some (text ++ text')) ∧
    (∀ out, es.foldlM writeTo? out = (renderAll? default es).map (out ++ ·)) ∧
    ∀ d : Document, d.elements = es →
      (d.renderWith separator).result =
        (renderAll? separator es).elim (.error .emptyOpcode) .ok ∧
      ∀ r ∈ [d.render, d.display, d.renderWith default],
        r.result = (es.foldlM writeTo? "").elim (.error .emptyOpcode) .ok := by
  have hn := (renderAll?_eq_none_iff separator es).trans exists_not_isWritable_iff
  refine ⟨fun h => ?written, hn, ?append, foldlM_writeTo?_eq_renderAll? es, ?documents⟩
  case written =>
    have hw : ∀ e ∈ es, e.IsWritable := by
      by_contra! hu
      have ⟨c, hc, ho⟩ := exists_not_isWritable_iff.mp hu
      exact h c hc ho
    have ⟨texts, ht⟩ := exists_texts hw
    exact ⟨texts, ht, renderAll?_of_texts ht separator⟩
  case append =>
    intro es' text text' ht ht'
    rw [renderAll?_append, ht, ht']
    rfl
  case documents =>
    rintro d rfl
    refine ⟨d.renderWith_result separator, fun r hr => ?_⟩
    have hr : r = d.renderWith default := by simpa [Document.render, Document.display] using hr
    rw [hr, d.renderWith_result, foldlM_writeTo?_eq_renderAll?]
    simp

theorem renderAll?_concatenates_of_kinds :
    let es  :=
      [raw "", .ofInstruction (.labelShift (-5)), .command (.custom "~X" [.text "a" "é,^"])]
    let es' := [raw "\n", .ofInstruction .fieldSeparator]
    let d   : Document := ⟨es ++ es'⟩
    renderAll? .newline es = some "\n^LS-5\n~Xé,^\n" ∧
      renderAll? .newline (es ++ es') = some "\n^LS-5\n~Xé,^\n\n\n^FS\n" ∧
      d.display.result = .ok "^LS-5~Xé,^\n^FS" ∧
      renderAll? .newline (es ++ .command (.custom "" []) :: es') = none := by
  intro es es' d
  obtain ⟨written, _, append, _⟩ := renderAll?_concatenates es .newline
  obtain ⟨_, none_iff, _⟩ :=
    renderAll?_concatenates (es ++ .command (.custom "" []) :: es') .newline
  obtain ⟨_, _, _, _, documents⟩ := renderAll?_concatenates (es ++ es') .newline
  have ho : ∀ c, .command c ∈ es → c.opcode ≠ "" := by
    simp [es, ofInstruction, Command.opcode, Instruction.opcode]
  have ht : es.map text? = ["", "^LS-5", "~Xé,^"].map some := by decide
  have ht' : renderAll? .newline es' = some "\n\n^FS\n" := by decide
  obtain ⟨texts, hts, hes⟩ := written ho
  obtain rfl : _ = texts :=
    List.map_injective_iff.mpr (fun _ _ => Option.some.inj) <| ht.symm.trans hts
  refine ⟨hes, append es' _ _ hes ht', ?_, none_iff.mpr ⟨.custom "" [], by simp, rfl⟩⟩
  exact (documents d rfl).right d.display (by simp)

end Element
end Zpl
