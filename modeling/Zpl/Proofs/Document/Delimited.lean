import Zpl.Proofs.Command.Payload
import Zpl.Proofs.Document.Render

namespace Zpl

theorem Instruction.isLed_opcode (i : Instruction) : Text.IsLed '^' i.opcode.toList := by
  cases i <;> simp [Text.IsLed, opcode]

namespace Element

-- An instruction that is accepted and has no caret in its payload, or a text of one caret and what
-- follows it.
inductive Delimited : Element → Prop
  | made {i : Instruction} : i.violation? = none → (∀ s, i.payload? = some s → '^' ∉ s.toList) →
      Delimited (.ofInstruction i)
  | raw {text : String} : Text.IsLed '^' text.toList → Delimited (.raw text)

theorem Delimited.exists_text {e : Element} (h : e.Delimited) :
    ∃ text, e.text? = some text ∧ Text.IsLed '^' text.toList := by
  cases h
  case raw text hl => exact ⟨text, by simp [text?, writeTo?], hl⟩
  case made i hi hp =>
    have hi := (Instruction.violation?_eq_none_iff_conforms i).mp hi
    have ha : '^' ∉ i.arguments.toList := Instruction.not_mem_arguments hi rfl (by decide) hp
    refine ⟨i.opcode ++ i.arguments, Command.text?_eq i.opcode_ne_empty, ?_⟩
    rw [String.toList_append]
    exact i.isLed_opcode.append ha

theorem exists_texts_of_delimited {es : List Element} (h : ∀ e ∈ es, e.Delimited) :
    ∃ texts : List String, es.map text? = texts.map some ∧
      ∀ l ∈ texts.map String.toList, Text.IsLed '^' l := by
  induction es
  case nil => exact ⟨[], by simp⟩
  case cons e es hi =>
    have ⟨text, ht, hl⟩ := (h e List.mem_cons_self).exists_text
    have ⟨texts, hts, hls⟩ := hi fun e he => h e <| List.mem_cons_of_mem _ he
    exact ⟨text :: texts, by simp [ht, hts], by simpa using ⟨hl, by simpa using hls⟩⟩

variable {xs ys : List Element}

-- The carets are where one element ends and the next begins.
theorem eq_texts_of_renderAll?_eq (hx : ∀ e ∈ xs, e.Delimited) (hy : ∀ e ∈ ys, e.Delimited) :
    (∃ (text : String) (texts : List String),
      renderAll? default xs = some text ∧ xs.map text? = texts.map some ∧
      Text.cutBefore '^' text.toList = texts.map String.toList) ∧
    (renderAll? default xs = renderAll? default ys →
      List.Forall₂ (fun x y => x.text? = y.text?) xs ys) := by
  have ⟨texts, ht, hl⟩ := exists_texts_of_delimited hx
  have ⟨texts', ht', hl'⟩ := exists_texts_of_delimited hy
  have hxs : renderAll? default xs = some (String.join texts) := by
    simpa [default, Separator.text] using renderAll?_of_texts ht default
  have hys : renderAll? default ys = some (String.join texts') := by
    simpa [default, Separator.text] using renderAll?_of_texts ht' default
  refine ⟨⟨String.join texts, texts, hxs, ht, ?cut⟩, ?alike⟩
  case cut =>
    rw [String.toList_join, List.flatMap_def]
    exact Text.cutBefore_flatten hl
  case alike =>
    intro he
    rw [hxs, hys, Option.some.injEq, ←String.toList_inj, String.toList_join, String.toList_join,
      List.flatMap_def, List.flatMap_def] at he
    have he := Text.flatten_inj_of_isLed hl hl' he
    rw [List.map_injective_iff.mpr (fun _ _ => String.toList_inj.mp) he] at ht
    exact map_eq_map_iff_forall₂.mp <| ht.trans ht'.symm

theorem eq_texts_of_renderAll?_eq_of_mixed :
    let xs := [raw "^XA", .ofInstruction (.fieldData "a,b"),
      .ofInstruction (.printQuantity 2 (some 5) none none none)]
    let ys := [.ofInstruction .startFormat, raw "^FDa,b",
      .ofInstruction (.printQuantity 2 none (some 5) none none)]
    xs ≠ ys ∧ renderAll? default xs = some "^XA^FDa,b^PQ2,5" ∧
      List.Forall₂ (fun x y => x.text? = y.text?) xs ys ∧
      Text.cutBefore '^' "^XA^FDa,b^PQ2,5".toList =
        ["^XA", "^FDa,b", "^PQ2,5"].map String.toList := by
  intro xs ys
  have hx : ∀ e ∈ xs, e.Delimited := by
    simp only [xs, List.forall_mem_cons]
    exact ⟨.raw (by simp [Text.IsLed]), .made rfl (by decide), .made rfl nofun,
      List.forall_mem_nil _⟩
  have hy : ∀ e ∈ ys, e.Delimited := by
    simp only [ys, List.forall_mem_cons]
    exact ⟨.made rfl nofun, .raw (by simp [Text.IsLed]), .made rfl nofun,
      List.forall_mem_nil _⟩
  have hxs : renderAll? default xs = some "^XA^FDa,b^PQ2,5" := by decide
  have hys : renderAll? default ys = some "^XA^FDa,b^PQ2,5" := by decide
  have hts : xs.map text? = ["^XA", "^FDa,b", "^PQ2,5"].map some := by decide
  have ⟨⟨text, texts, ht, ht', cut⟩, alike⟩ := eq_texts_of_renderAll?_eq hx hy
  obtain rfl : _ = text := Option.some.inj <| hxs.symm.trans ht
  obtain rfl : _ = texts :=
    List.map_injective_iff.mpr (fun _ _ => Option.some.inj) <| hts.symm.trans ht'
  exact ⟨by decide, hxs, alike <| hxs.trans hys.symm, cut⟩

end Element
end Zpl
