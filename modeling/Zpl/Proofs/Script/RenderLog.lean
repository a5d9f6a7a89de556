import Mathlib.Algebra.BigOperators.Group.List.Basic
import Zpl.Proofs.Document.Render
import Zpl.Proofs.Script.Log

namespace Zpl

theorem Text.size_join (ts : List String) :
    (String.join ts).toUTF8.size = (ts.map (·.toUTF8.size)).sum := by
  induction ts
  case nil => rfl
  case cons t ts hi =>
    rw [String.join_cons, List.map_cons, List.sum_cons, ←hi]
    exact String.utf8ByteSize_append

namespace Separator

def width : Separator → Nat
  | none    => 0
  | newline => 1

theorem size_append_text (separator : Separator) (t : String) :
    (t ++ separator.text).toUTF8.size = t.toUTF8.size + separator.width := by
  cases separator <;> exact String.utf8ByteSize_append

theorem size_join_append_text (separator : Separator) (ts : List String) :
    (String.join (ts.map (· ++ separator.text))).toUTF8.size =
      (ts.map (·.toUTF8.size)).sum + ts.length * separator.width := by
  rw [Text.size_join, List.map_map]
  simp only [Function.comp_def, size_append_text, List.sum_map_add, List.map_const',
    List.sum_replicate_nat]

end Separator

namespace Report

-- The document is rendered, or cannot be, and stays as it is. If there is a text, the log is told
-- of it once and last.
structure Renders (d : Document) (separator : Separator) (before : List Event)
    (r : Report String) : Prop where
  document : r.document = d
  returned : r.result = .ok text → ∃ texts : List String,
    d.elements.map Element.text? = texts.map some ∧
    r.events = before ++ [.rendered d.length text.toUTF8.size] ∧
    text.toUTF8.size = (texts.map (·.toUTF8.size)).sum + d.length * separator.width
  halted   : r.result = .error halt → r.events = before

theorem Renders.andThen {r : Report α} {f : Document → Report String} (h : r.result = .ok a)
    (hf : (f r.document).Renders r.document separator []) :
    (r.andThen f).Renders r.document separator r.events := by
  rw [andThen_of_ok h]
  refine ⟨hf.document, fun ht => ?returned, fun ht => ?halted⟩
  case returned =>
    have ⟨texts, hts, he, hs⟩ := hf.returned ht
    exact ⟨texts, hts, congrArg (r.events ++ ·) he, hs⟩
  case halted => simp [hf.halted ht]

end Report

namespace Document

theorem renderWith_renders (d : Document) (separator : Separator) :
    (d.renderWith separator).Renders d separator [] := by
  cases h : d.text? separator
  case none =>
    have hr : d.renderWith separator = ⟨d, [], .error .emptyOpcode⟩ := by rw [renderWith, h]
    rw [hr]
    exact ⟨rfl, fun _ => by contradiction, fun _ => rfl⟩
  case some text =>
    have hr : d.renderWith separator =
        ⟨d, [.rendered d.length text.utf8ByteSize], .ok text⟩ := by rw [renderWith, h]
    rw [hr]
    refine ⟨rfl, fun ht => ?_, fun _ => by contradiction⟩
    obtain rfl : text = _ := Except.ok.inj ht
    obtain ⟨texts, hts, hj⟩ := Element.exists_texts_of_renderAll? h
    refine ⟨texts, hts, rfl, ?_⟩
    rw [hj, separator.size_join_append_text, Element.length_texts hts, length]

theorem compose_renders (body : Document → Report Unit) :
    (compose body).Renders (body empty).document default (body empty).events := by
  cases hb : (body empty).result
  case ok    => exact .andThen hb <| renderWith_renders _ default
  case error =>
    rw [compose, Report.andThen_of_error hb]
    exact ⟨rfl, fun _ => by contradiction, fun _ => rfl⟩

end Document

def Step.inspects (s : Step) : Bool :=
  match s.bare with
  | dump | json | isEmpty | element _ => true
  | _ => false

theorem Step.run_of_inspects {s : Step} (h : s.inspects) (d : Document) :
    (s.run d).events = [] ∧ (s.run d).document = d := by
  induction s
  case operation op ho =>
    cases op
    case dump | json | isEmpty => exact ⟨rfl, rfl⟩
    case element index         => exact ⟨d.elementText_events index, d.elementText_document index⟩
    all_goals contradiction
  case label           => contradiction
  case attempt step hi =>
    rw [run, Report.passRefusal_events, Report.passRefusal_document]
    exact hi h

-- However a document is rendered, the log is told of each text once, and of nothing else.
theorem Document.rendering_is_logged (d : Document) (separator : Separator)
    (body : Document → Report Unit) :
    (d.renderWith separator).Renders d separator [] ∧
    d.render.Renders d .none [] ∧
    d.display.Renders d .none [] ∧
    (compose body).Renders (body empty).document .none (body empty).events ∧
    ∀ s : Step, s.inspects → (s.run d).events = [] ∧ (s.run d).document = d :=
  ⟨d.renderWith_renders separator, d.renderWith_renders .none, d.renderWith_renders .none,
    compose_renders body, fun _ h => Step.run_of_inspects h d⟩

theorem Document.rendering_is_logged_of_bytes :
    let d : Document := ⟨[.raw "é", .ofInstruction (.labelShift (-5))]⟩
    let good  : Script := [.addRaw "é", .label [.attempt (.emit (.labelLength 0)), .render]]
    let blank : Script := [.add (.custom "" [])]
    (d.renderWith .newline).events = [.rendered 2 9] ∧
      d.display.events = [.rendered 2 7] ∧
      good.compose.events = (good.run .empty).events ++ [.rendered 3 8] ∧
      blank.compose.events = [.appendedCommand ""] ∧
      ((Step.element 1).run d).events = [] := by
  intro d good blank
  have lines : (d.renderWith .newline).result = .ok "é\n^LS-5\n" := rfl
  have shown : d.display.result = .ok "é^LS-5" := rfl
  have made  : good.compose.result = .ok "é^XA^XZ" := rfl
  have halts : blank.compose.result = .error .emptyOpcode := rfl
  have ⟨rendered, _, displayed, composed, inspected⟩ := d.rendering_is_logged .newline good.run
  have ⟨_, _, _, unwritten, _⟩ := d.rendering_is_logged .newline blank.run
  have ⟨_, _, lines_logged, _⟩ := rendered.returned lines
  have ⟨_, _, shown_logged, _⟩ := displayed.returned shown
  have ⟨_, _, made_logged, _⟩ := composed.returned made
  exact ⟨lines_logged, shown_logged, made_logged, unwritten.halted halts,
    (inspected (.element 1) rfl).left⟩

end Zpl
