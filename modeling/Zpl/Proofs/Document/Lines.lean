import Zpl.Proofs.Document.Render
import Zpl.Proofs.Text.Pieces

namespace Zpl.Element

def IsLine (e : Element) : Prop :=
  ∀ text, e.text? = some text → '\n' ∉ text.toList

theorem IsLine.of_text? {e : Element} (h : e.text? = some text) (hn : '\n' ∉ text.toList) :
    e.IsLine := by
  intro text' h'
  rwa [Option.some.inj <| h'.symm.trans h]

theorem forall_texts_of_isLine {es : List Element} {texts : List String}
    (ht : es.map text? = texts.map some) (h : ∀ e ∈ es, e.IsLine) :
    ∀ l ∈ texts.map String.toList, '\n' ∉ l := by
  rw [List.forall_mem_map]
  intro text hm
  have hm : some text ∈ es.map text? := ht ▸ List.mem_map_of_mem hm
  have ⟨e, he, het⟩ := List.mem_map.mp hm
  exact h e he text het

theorem toList_join_newline (texts : List String) :
    (String.join (texts.map (· ++ Separator.newline.text))).toList =
      Text.ended '\n' (texts.map String.toList) := by
  induction texts
  case nil => rfl
  case cons t ts hi => simpa [Separator.text] using hi

theorem length_join_newline (texts : List String) :
    (String.join (texts.map (· ++ Separator.newline.text))).length =
      (String.join texts).length + texts.length := by
  induction texts
  case nil => rfl
  case cons t ts hi =>
    have hn : Separator.newline.text.length = 1 := rfl
    simp only [List.map_cons, String.join_cons, String.length_append, hi, hn, List.length_cons]
    omega

variable {es es' : List Element} {texts : List String}

theorem renderAll?_newline_eq_iff (ht : es.map text? = texts.map some) (h : ∀ e ∈ es, e.IsLine)
    (h' : ∀ e ∈ es', e.IsLine) :
    renderAll? .newline es = renderAll? .newline es' ↔
      List.Forall₂ (fun e e' => e.text? = e'.text?) es es' := by
  rw [←map_eq_map_iff_forall₂]
  refine ⟨fun hr => ?_, fun hr => renderAll?_congr hr .newline⟩
  rw [renderAll?_of_texts ht] at hr
  have ⟨texts', ht', hj⟩ := exists_texts_of_renderAll? hr.symm
  have hj := congrArg String.toList hj
  rw [toList_join_newline, toList_join_newline] at hj
  have hl := Text.ended_inj (forall_texts_of_isLine ht h) (forall_texts_of_isLine ht' h') hj
  rw [ht, ht', List.map_injective_iff.mpr (fun _ _ => String.toList_inj.mp) hl]

-- Whatever is rendered has one character more for each element when newlines are put in. Unless a
-- text has a newline of its own, the lines are the texts.
theorem newline_ends_each_text (h : renderAll? separator es = some text) :
    ∃ (bare lines : String) (texts : List String),
      renderAll? default es = some bare ∧ renderAll? .newline es = some lines ∧
      es.map text? = texts.map some ∧ lines.length = bare.length + es.length ∧
      ((∀ e ∈ es, e.IsLine) →
        lines.toList.splitOn '\n' = texts.map String.toList ++ [[]] ∧
        lines.toList.filter (· ≠ '\n') = bare.toList ∧
        ∀ es', (∀ e ∈ es', e.IsLine) →
          (renderAll? .newline es = renderAll? .newline es' ↔
            List.Forall₂ (fun e e' => e.text? = e'.text?) es es')) := by
  have ⟨texts, ht, _⟩ := exists_texts_of_renderAll? h
  have hb : renderAll? default es = some (String.join texts) := by
    simpa [default, Separator.text] using renderAll?_of_texts ht default
  refine ⟨_, _, texts, hb, renderAll?_of_texts ht .newline, ht, ?length, fun hline => ?lines⟩
  case length => rw [length_join_newline, length_texts ht]
  case lines =>
    have hn := forall_texts_of_isLine ht hline
    rw [toList_join_newline, String.toList_join, List.flatMap_def]
    refine ⟨Text.splitOn_ended hn, Text.filter_ended hn, fun es' hline' => ?_⟩
    exact renderAll?_newline_eq_iff ht hline hline'

theorem newline_ends_each_text_of_empty :
    let es  := [raw "a", raw "", .ofInstruction (.fieldData "é"), raw "b"]
    let es' := [raw "a^FDéb"]
    renderAll? default es = some "a^FDéb" ∧ renderAll? default es' = some "a^FDéb" ∧
      renderAll? .newline es ≠ renderAll? .newline es' ∧
      "a\n\n^FDé\nb\n".length = "a^FDéb".length + 4 ∧
      "a\n\n^FDé\nb\n".toList.splitOn '\n' = ["a", "", "^FDé", "b", ""].map String.toList := by
  intro es es'
  have hb : renderAll? default es = some "a^FDéb" := by decide
  have hl : renderAll? .newline es = some "a\n\n^FDé\nb\n" := by decide
  have ht : es.map text? = ["a", "", "^FDé", "b"].map some := by decide
  have hline : ∀ e ∈ es, e.IsLine := by
    simp only [es, List.forall_mem_cons]
    exact ⟨.of_text? rfl (by decide), .of_text? rfl (by decide), .of_text? rfl (by decide),
      .of_text? rfl (by decide), List.forall_mem_nil _⟩
  have hline' : ∀ e ∈ es', e.IsLine := List.forall_mem_singleton.mpr <| .of_text? rfl (by decide)
  have ⟨bare, lines, texts, hbare, hlines, htexts, length, told⟩ := newline_ends_each_text hl
  obtain rfl : _ = bare := Option.some.inj <| hb.symm.trans hbare
  obtain rfl : _ = lines := Option.some.inj <| hl.symm.trans hlines
  obtain rfl : _ = texts :=
    List.map_injective_iff.mpr (fun _ _ => Option.some.inj) <| ht.symm.trans htexts
  have ⟨cut, _, alike⟩ := told hline
  refine ⟨hb, by decide, fun h => ?_, length, cut⟩
  exact nomatch ((alike es' hline').mp h).length_eq

end Zpl.Element
