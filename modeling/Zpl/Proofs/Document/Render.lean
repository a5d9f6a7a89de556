import Mathlib.Data.List.Forall2
import Zpl.Document.Authoring
import Zpl.Proofs.Command.Wire

namespace Zpl

theorem map_eq_map_iff_forall₂ {f : α → β} {xs ys : List α} :
    xs.map f = ys.map f ↔ List.Forall₂ (fun x y => f x = f y) xs ys := by
  rw [←List.forall₂_eq_eq_eq, List.forall₂_map_left_iff, List.forall₂_map_right_iff]

theorem mapM_eq_some_iff {f : α → Option β} {as : List α} {bs : List β} :
    as.mapM f = some bs ↔ as.map f = bs.map some := by
  induction as generalizing bs
  case nil => simp
  case cons a as hi => cases bs <;> simp [Option.bind_eq_some_iff, hi]

namespace Element

def IsWritable : Element → Prop
  | command c => c.opcode ≠ ""
  | raw _     => True

theorem isWritable_iff {e : Element} : e.IsWritable ↔ ∀ slots, e ≠ .command (.custom "" slots) := by
  match e with
  | raw _                         => simp [IsWritable]
  | command (.builtin i)          => simp [IsWritable, Command.opcode, i.opcode_ne_empty]
  | command (.custom opcode slots) => simp [IsWritable, Command.opcode]

theorem writeTo?_eq_map_text? (e : Element) (out : String) :
    e.writeTo? out = e.text?.map (out ++ ·) := by
  cases e
  case raw text => simp [text?, writeTo?]
  case command c =>
    by_cases h : c.opcode = ""
    case pos => simp [text?, writeTo?, Command.writeTo?, h]
    case neg => simp [text?, writeTo?, Command.writeTo?_eq h, String.append_assoc]

theorem IsWritable.exists_text {e : Element} (h : e.IsWritable) : ∃ text, e.text? = some text := by
  cases e
  case raw text  => exact ⟨_, rfl⟩
  case command c => exact ⟨_, Command.writeTo?_eq h ""⟩

theorem foldlM_writeTo?_eq (separator : Separator) (es : List Element) (out : String) :
    es.foldlM (fun out e => (e.writeTo? out).map (· ++ separator.text)) out =
      (es.mapM text?).map fun ts => out ++ String.join (ts.map (· ++ separator.text)) := by
  induction es generalizing out
  case nil => simp
  case cons e es hi =>
    rw [List.foldlM_cons, List.mapM_cons, writeTo?_eq_map_text? e out]
    cases e.text?
    case none => simp
    case some t =>
      have hi := hi (out ++ t ++ separator.text)
      cases hts : es.mapM text? <;> simp_all [String.append_assoc]

theorem renderAll?_eq (separator : Separator) (es : List Element) :
    renderAll? separator es =
      (es.mapM text?).map fun ts => String.join (ts.map (· ++ separator.text)) := by
  simp [renderAll?, foldlM_writeTo?_eq]

theorem renderAll?_singleton (separator : Separator) (e : Element) :
    renderAll? separator [e] = e.text?.map (· ++ separator.text) := by
  cases h : e.text? <;> simp [renderAll?_eq, h]

theorem renderAll?_append (separator : Separator) (xs ys : List Element) :
    renderAll? separator (xs ++ ys) =
      (renderAll? separator xs).bind fun x => (renderAll? separator ys).map (x ++ ·) := by
  simp only [renderAll?_eq, List.mapM_append]
  cases xs.mapM text? <;> cases ys.mapM text? <;> simp

theorem renderAll?_congr {xs ys : List Element} (h : xs.map text? = ys.map text?)
    (separator : Separator) : renderAll? separator xs = renderAll? separator ys := by
  have hm (es : List Element) : es.mapM text? = (es.map text?).mapM id := by simp [List.mapM_map]
  rw [renderAll?_eq, renderAll?_eq, hm, hm, h]

theorem renderAll?_of_texts {es : List Element} {texts : List String}
    (h : es.map text? = texts.map some) (separator : Separator) :
    renderAll? separator es = some (String.join (texts.map (· ++ separator.text))) := by
  rw [renderAll?_eq, mapM_eq_some_iff.mpr h, Option.map_some]

theorem exists_texts_of_renderAll? {es : List Element} (h : renderAll? separator es = some text) :
    ∃ texts : List String, es.map text? = texts.map some ∧
      text = String.join (texts.map (· ++ separator.text)) := by
  rw [renderAll?_eq, Option.map_eq_some_iff] at h
  have ⟨texts, ht, he⟩ := h
  exact ⟨texts, mapM_eq_some_iff.mp ht, he.symm⟩

theorem length_texts {es : List Element} {texts : List String}
    (h : es.map text? = texts.map some) : texts.length = es.length := by
  simpa using congrArg List.length h.symm

theorem exists_mapM_text? {es : List Element} (h : ∀ e ∈ es, e.IsWritable) :
    ∃ ts, es.mapM text? = some ts := by
  induction es
  case nil => exact ⟨[], rfl⟩
  case cons e es hi =>
    have ⟨t, ht⟩ := (h e List.mem_cons_self).exists_text
    have ⟨ts, hts⟩ := hi fun e he => h e <| List.mem_cons_of_mem _ he
    exact ⟨t :: ts, by simp [ht, hts]⟩

theorem text?_of_not_isWritable {e : Element} (h : ¬e.IsWritable) : e.text? = none := by
  cases e
  case raw       => exact absurd trivial h
  case command c =>
    have h : c.opcode = "" := not_not.mp h
    simp [text?, writeTo?, Command.writeTo?, h]

theorem mapM_text?_eq_none {es : List Element} (h : ∃ e ∈ es, ¬e.IsWritable) :
    es.mapM text? = none := by
  induction es
  case nil => simp at h
  case cons e es hi =>
    rw [List.mapM_cons]
    by_cases he : e.IsWritable
    case neg => simp [text?_of_not_isWritable he]
    case pos =>
      have hes : es.mapM text? = none := hi <| by simpa [he] using h
      cases e.text? <;> simp [hes]

end Element

namespace Document

variable {d : Document}

theorem exists_text? (h : ∀ e ∈ d.elements, e.IsWritable) (separator : Separator) :
    ∃ text, d.text? separator = some text := by
  have ⟨ts, hts⟩ := Element.exists_mapM_text? h
  exact ⟨String.join (ts.map (· ++ separator.text)), by simp [text?, Element.renderAll?_eq, hts]⟩

theorem renderWith_result_of_text? (h : d.text? separator = some text) :
    (d.renderWith separator).result = .ok text := by
  simp [renderWith, h]

theorem renderWith_result_of_not_isWritable (h : ∃ e ∈ d.elements, ¬e.IsWritable)
    (separator : Separator) : (d.renderWith separator).result = .error .emptyOpcode := by
  simp [renderWith, text?, Element.renderAll?_eq, Element.mapM_text?_eq_none h]

theorem exists_renderWith (h : ∀ e ∈ d.elements, e.IsWritable) (separator : Separator) :
    ∃ text, (d.renderWith separator).result = .ok text :=
  have ⟨text, ht⟩ := exists_text? h separator
  ⟨text, renderWith_result_of_text? ht⟩

end Document
end Zpl
