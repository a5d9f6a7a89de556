import Zpl.Proofs.Document.Render
import Zpl.Proofs.Script.Frame

namespace Zpl

mutual

-- The step is refused for the violation. In a label this is what its body is refused for, and an
-- attempt is never refused.
inductive Step.Refused : Step → Violation → Prop
  | add      : c.violation? = some v → Step.Refused (.add c) v
  | emit     : i.violation? = some v → Step.Refused (.emit i) v
  | addField : (Instruction.fieldOrigin x y none).violation? = some v →
      Step.Refused (.addField x y data) v
  | addFontField : (Instruction.fieldOrigin x y none).violation? = some v →
      Step.Refused (.addFontField x y face height width data) v
  | addFontFieldOfFont : (Instruction.fieldOrigin x y none).violation? = none →
      (Instruction.font face height width).violation? = some v →
      Step.Refused (.addFontField x y face height width data) v
  | label    : Script.Refused body .empty v → Step.Refused (.label body) v
  | fail     : Step.Refused (.fail v) v

inductive Script.Refused : Script → Document → Violation → Prop
  | head : Step.Refused step v → Script.Refused (step :: rest) d v
  | tail : (step.run d).result = .ok a → Script.Refused rest (step.run d).document v →
      Script.Refused (step :: rest) d v

end

namespace Report

theorem map_result_eq_error_iff {r : Report α} {f : α → β} :
    (r.map f).result = .error halt ↔ r.result = .error halt := by
  cases h : r.result <;> simp [h, Except.map]

theorem passRefusal_result_ne (r : Report α) (a : α) (v : Violation) :
    (r.passRefusal a).result ≠ .error (.rejected v) := by
  rw [passRefusal]
  split
  case h_1   => simp
  case h_2 h => exact h v

end Report

namespace Document

variable {d : Document} {v : Violation}

theorem acknowledged_appendUnless_eq_rejected_iff {v? : Option Violation}
    {log : Violation → List Event} {es : List Element} :
    (d.appendUnless v? log es).acknowledged.result = .error (.rejected v) ↔ v? = some v := by
  rw [Report.acknowledged, Report.map_result_eq_error_iff]
  cases v? <;> simp [appendUnless, appendAll]

theorem renderWith_result_ne (d : Document) (separator : Separator) (v : Violation) :
    (d.renderWith separator).result ≠ .error (.rejected v) := by
  rw [renderWith]
  split <;> simp

theorem elementText_result_ne (d : Document) (index : Nat) (v : Violation) :
    (d.elementText index).result ≠ .error (.rejected v) := by
  rw [elementText]
  split
  case h_1 => simp [Report.done]
  case h_2 => split <;> simp [Report.done]

theorem label_result (d : Document) (body : Document → Report Unit) :
    (d.label body).result = (body empty).result := by
  cases h : (body empty).result <;> simp [label, appendAll, h]

theorem label_document_of_error {body : Document → Report Unit}
    (h : (body empty).result = .error halt) : (d.label body).document = d := by
  simp [label, h]

theorem label_elements_of_ok {body : Document → Report Unit} (h : (body empty).result = .ok ()) :
    (d.label body).document.elements =
      d.elements ++ bracketed (body empty).document.elements := by
  simp [label, appendAll, h]

end Document

namespace Instruction

theorem findSome?_violation?_field (x y : Int) (data : String) :
    [fieldOrigin x y none, fieldData data, fieldSeparator].findSome? (·.violation?) =
      (fieldOrigin x y none).violation? := by
  have hd : (fieldData data).violation? = none := rfl
  have hs : fieldSeparator.violation? = none := rfl
  cases h : (fieldOrigin x y none).violation? <;> simp [h, hd, hs]

theorem findSome?_violation?_fontField (x y : Int) (face : Font) (height width : Int)
    (data : String) :
    [fieldOrigin x y none, font face height width, fieldData data, fieldSeparator].findSome?
        (·.violation?) =
      (fieldOrigin x y none).violation?.or (font face height width).violation? := by
  have hd : (fieldData data).violation? = none := rfl
  have hs : fieldSeparator.violation? = none := rfl
  cases h : (fieldOrigin x y none).violation? <;>
    cases h' : (font face height width).violation? <;> simp [h, h', hd, hs]

end Instruction

namespace Step

variable {s : Step} {d : Document} {v : Violation}

theorem refused_add_iff : (add c).Refused v ↔ c.violation? = some v :=
  ⟨fun | .add h => h, .add⟩

theorem refused_emit_iff : (emit i).Refused v ↔ i.violation? = some v :=
  ⟨fun | .emit h => h, .emit⟩

theorem refused_addField_iff :
    (addField x y data).Refused v ↔ (Instruction.fieldOrigin x y none).violation? = some v :=
  ⟨fun | .addField h => h, .addField⟩

theorem refused_addFontField_iff :
    (addFontField x y face height width data).Refused v ↔
      (Instruction.fieldOrigin x y none).violation? = some v ∨
      (Instruction.fieldOrigin x y none).violation? = none ∧
        (Instruction.font face height width).violation? = some v where
  mp
    | .addFontField h           => .inl h
    | .addFontFieldOfFont ho hf => .inr ⟨ho, hf⟩
  mpr
    | .inl h        => .addFontField h
    | .inr ⟨ho, hf⟩ => .addFontFieldOfFont ho hf

theorem refused_label_iff : (label body).Refused v ↔ Script.Refused body .empty v :=
  ⟨fun | .label h => h, .label⟩

theorem not_refused_attempt : ¬s.attempt.Refused v :=
  nofun

theorem refused_fail_iff : (fail w).Refused v ↔ w = v :=
  ⟨fun | .fail => rfl, fun h => h ▸ .fail⟩

theorem IsAppending.run_result_eq_rejected_iff (h : s.IsAppending) :
    (s.run d).result = .error (.rejected v) ↔ s.Refused v := by
  match s with
  | .addRaw _ => exact iff_of_false nofun nofun
  | .add c =>
    rw [run, Document.add_eq, Document.acknowledged_appendUnless_eq_rejected_iff, refused_add_iff]
  | .emit i =>
    rw [run_emit, Document.emit_eq, Document.acknowledged_appendUnless_eq_rejected_iff,
      refused_emit_iff]
  | .addField x y data =>
    rw [run, Document.addField, Document.addFieldOf_eq,
      Document.acknowledged_appendUnless_eq_rejected_iff,
      Instruction.findSome?_violation?_field, refused_addField_iff]
  | .addFontField x y face height width data =>
    rw [run, Document.addFontField, Document.addFieldOf_eq,
      Document.acknowledged_appendUnless_eq_rejected_iff,
      Instruction.findSome?_violation?_fontField, Option.or_eq_some_iff, refused_addFontField_iff]

theorem run_result_ne_of_shows (ho : s.IsOperation) (h : s.shows) :
    (s.run d).result ≠ .error (.rejected v) := by
  obtain ⟨separator, hr⟩ | ⟨index, hr⟩ | ⟨a, hr⟩ := ho.run_of_shows h d
  all_goals rw [hr]
  · rw [Ne, Report.map_result_eq_error_iff]
    exact d.renderWith_result_ne separator v
  · exact d.elementText_result_ne index v
  · exact nofun

theorem Refused.not_shows (h : s.Refused v) : ¬s.shows := by
  cases h <;> exact nofun

end Step

theorem Script.run_rejected_iff {s : Script} {d : Document} {v : Violation}
    (hs : ∀ step ∈ s, ∀ d, (step.run d).result = .error (.rejected v) ↔ step.Refused v) :
    (s.run d).result = .error (.rejected v) ↔ s.Refused d v := by
  induction s generalizing d
  case nil => exact iff_of_false nofun nofun
  case cons step rest hi =>
    have ⟨hstep, hrest⟩ := List.forall_mem_cons.mp hs
    have hstep := hstep d
    rw [run]
    cases he : (step.run d).result
    case error halt =>
      rw [Report.andThen_of_error he, Except.error.injEq]
      rw [he, Except.error.injEq] at hstep
      refine ⟨fun h => .head <| hstep.mp h, ?_⟩
      rintro (h | ⟨ha, _⟩)
      · exact hstep.mpr h
      · simp [he] at ha
    case ok =>
      rw [Report.andThen_of_ok he, hi hrest]
      refine ⟨.tail he, ?_⟩
      rintro (h | ⟨_, h⟩)
      · simpa [he] using hstep.mpr h
      · exact h

theorem Step.run_result_eq_rejected_iff (s : Step) (d : Document) (v : Violation) :
    (s.run d).result = .error (.rejected v) ↔ s.Refused v := by
  induction s generalizing d
  case operation op ho =>
    induction op, ho using IsOperation.cases
    case appends ha => exact ha.run_result_eq_rejected_iff
    case shows ho hs => exact iff_of_false (run_result_ne_of_shows ho hs) fun h => h.not_shows hs
    case clear => exact iff_of_false nofun nofun
    case fail w => simp [run, refused_fail_iff]
  case label body hi =>
    rw [run, Report.acknowledged, Report.map_result_eq_error_iff, Document.label_result,
      Script.run_rejected_iff hi, refused_label_iff]
  case attempt step _ =>
    rw [run]
    exact iff_of_false (Report.passRefusal_result_ne _ _ _) not_refused_attempt

theorem Script.run_result_eq_rejected_iff (s : Script) (d : Document) (v : Violation) :
    (s.run d).result = .error (.rejected v) ↔ s.Refused d v :=
  run_rejected_iff fun step _ d => step.run_result_eq_rejected_iff d v

namespace Document

variable {d : Document} {body : Document → Report Unit}

theorem renderAll?_bracketed {es : List Element} (h : Element.renderAll? default es = some text) :
    Element.renderAll? default (bracketed es) = some ("^XA" ++ text ++ "^XZ") := by
  have hs : Element.renderAll? default [.ofInstruction .startFormat] = some "^XA" := by decide
  have he : Element.renderAll? default [.ofInstruction .endFormat] = some "^XZ" := by decide
  rw [bracketed_eq, Element.renderAll?_append, Element.renderAll?_append, hs, h, he]
  rfl

theorem text?_label (hb : (body empty).result = .ok ())
    (ht : (body empty).document.text? = some text) (hd : d.text? = some before) :
    (d.label body).document.text? = some (before ++ "^XA" ++ text ++ "^XZ") := by
  have hr := renderAll?_bracketed ht
  rw [text?] at hd ⊢
  rw [label_elements_of_ok hb, Element.renderAll?_append, hd, hr]
  simp [String.append_assoc]

theorem compose_result_of_ok (hb : (body empty).result = .ok ()) :
    (compose body).result = (body empty).document.render.result := by
  rw [compose, Report.andThen_of_ok hb]

theorem compose_result_of_error (hb : (body empty).result = .error halt) :
    (compose body).result = .error halt := by
  rw [compose, Report.andThen_of_error hb]

end Document

theorem Step.run_isPrefix {s : Step} (h : ¬s.clears) (d : Document) :
    d.elements <+: (s.run d).document.elements := by
  by_cases hs : s.shows
  case pos => exact run_document_of_shows hs ▸ List.prefix_rfl
  case neg => simp [run_eq_behind ⟨hs, h⟩ d]

namespace Script

variable {s : Script} {d : Document}

theorem finish_isPrefix (h : ∀ step ∈ s, ¬step.clears) (d : Document) :
    d.elements <+: (s.finish d).elements := by
  induction s generalizing d
  case nil => exact List.prefix_rfl
  case cons step rest hi =>
    have ⟨hs, hr⟩ := List.forall_mem_cons.mp h
    exact (Step.run_isPrefix hs d).trans <| hi hr _

theorem run_isPrefix (h : ∀ step ∈ s, ¬step.clears) (d : Document) :
    d.elements <+: (s.run d).document.elements := by
  rw [run_document_eq_finish]
  exact finish_isPrefix (fun step hs => h step <| (performed_isPrefix s d).subset hs) d

-- A label and its body by itself are refused for the same. Their texts agree unless the body holds
-- a command that cannot be written, and then neither can the document around the label be rendered
-- until it is cleared.
theorem label_agrees_with_compose (s : Script) (d : Document) :
    (∀ v, ((d.label s.run).result = .error (.rejected v) ↔ s.Refused .empty v) ∧
      (s.compose.result = .error (.rejected v) ↔ s.Refused .empty v)) ∧
    (∀ halt, (d.label s.run).result = .error halt →
      s.compose.result = .error halt ∧ (d.label s.run).document = d) ∧
    ((s.run .empty).result = .ok () → (∀ e ∈ (s.run .empty).document.elements, e.IsWritable) →
      ∃ text, s.compose.result = .ok text ∧ (d.label s.run).result = .ok () ∧
        (d.label s.run).document.length = d.length + (s.run .empty).document.length + 2 ∧
        ((∀ e ∈ d.elements, e.IsWritable) →
          ∃ before, d.render.result = .ok before ∧
            (d.label s.run).document.render.result = .ok (before ++ "^XA" ++ text ++ "^XZ"))) ∧
    ((s.run .empty).result = .ok () → (∃ e ∈ (s.run .empty).document.elements, ¬e.IsWritable) →
      s.compose.result = .error .emptyOpcode ∧ (d.label s.run).result = .ok () ∧
        ∀ later : Script, (∀ step ∈ later, ¬step.clears) →
          (later.finish (d.label s.run).document).render.result = .error .emptyOpcode ∧
          (later.run (d.label s.run).document).document.render.result = .error .emptyOpcode ∧
          (finish (later ++ [.clear]) (d.label s.run).document).render.result = .ok "") := by
  have hl := d.label_result s.run
  refine ⟨fun v => ⟨?label, ?compose⟩, fun halt h => ?halts, fun hb hw => ?written,
    fun hb hu => ?unwritten⟩
  case label => rw [hl, run_result_eq_rejected_iff]
  case compose =>
    rw [←run_result_eq_rejected_iff, compose]
    cases hb : (s.run .empty).result
    case error => simp [Document.compose_result_of_error hb]
    case ok    =>
      have hr := (s.run .empty).document.renderWith_result_ne default v
      simp [Document.compose_result_of_ok hb, Document.render, hr]
  case halts =>
    rw [hl] at h
    exact ⟨Document.compose_result_of_error h, Document.label_document_of_error h⟩
  case written =>
    obtain ⟨text, ht⟩ := Document.exists_text? hw default
    have hr := Document.renderWith_result_of_text? ht
    refine ⟨text, (Document.compose_result_of_ok hb).trans hr, hl.trans hb, ?length, fun hd => ?_⟩
    case length =>
      simp [Document.length, Document.label_elements_of_ok hb, Document.bracketed]
      omega
    obtain ⟨before, hbefore⟩ := Document.exists_text? hd default
    exact ⟨before, Document.renderWith_result_of_text? hbefore,
      Document.renderWith_result_of_text? <| Document.text?_label hb ht hbefore⟩
  case unwritten =>
    have hr := Document.renderWith_result_of_not_isWritable hu default
    refine ⟨(Document.compose_result_of_ok hb).trans hr, hl.trans hb, fun later hc => ?_⟩
    obtain ⟨e, he, hu⟩ := hu
    -- What cannot be written stays in the document, as do all elements until it is cleared.
    have hm : e ∈ (d.label s.run).document.elements := by
      simp [Document.label_elements_of_ok hb, Document.bracketed, he]
    refine ⟨?finish, ?run, ?cleared⟩
    case finish =>
      exact Document.renderWith_result_of_not_isWritable
        ⟨e, (finish_isPrefix hc _).subset hm, hu⟩ default
    case run =>
      exact Document.renderWith_result_of_not_isWritable
        ⟨e, (run_isPrefix hc _).subset hm, hu⟩ default
    case cleared => rw [finish, List.foldl_append]; rfl

theorem label_agrees_with_compose_of_bodies :
    let bad : Step := .emit (.labelShift 10000)
    let violation : Violation := .outOfRange "^LS" "shift" 10000 (-9999) 9999
    let refused : Script :=
      [.attempt bad, .label [.clear, .addRaw "a", bad], .emit (.labelLength 0)]
    let good : Script :=
      [.addRaw "a", .clear, .attempt (.label [bad]), .label [.addRaw "b"], .render]
    let blank : Script := [.add (.custom "" [])]
    let d : Document := ⟨[.raw "x"]⟩
    (d.label refused.run).result = .error (.rejected violation) ∧
      refused.compose.result = .error (.rejected violation) ∧
      (d.label refused.run).document = d ∧
      good.compose.result = .ok "^XAb^XZ" ∧
      (d.label good.run).document.render.result = .ok "x^XA^XAb^XZ^XZ" ∧
      blank.compose.result = .error .emptyOpcode ∧
      (finish [.addRaw "y", .render] (d.label blank.run).document).render.result =
        .error .emptyOpcode := by
  intro bad violation refused good blank d
  have ⟨refusals, unchanged, _⟩ := label_agrees_with_compose refused d
  have ⟨_, _, written, _⟩ := label_agrees_with_compose good d
  have ⟨_, _, _, unwritten⟩ := label_agrees_with_compose blank d
  have hr : refused.Refused .empty violation :=
    .tail rfl <| .head <| .label <| .tail rfl <| .tail rfl <| .head <| .emit rfl
  have hd : ∀ e ∈ d.elements, e.IsWritable := by simp [d, Element.IsWritable]
  have hg : (good.run .empty).document.elements =
      [.ofInstruction .startFormat, .raw "b", .ofInstruction .endFormat] := rfl
  have hw : ∀ e ∈ (good.run .empty).document.elements, e.IsWritable := by
    simp [hg, Element.IsWritable, Element.ofInstruction, Command.opcode, Instruction.opcode]
  have hc : good.compose.result = .ok "^XAb^XZ" := rfl
  obtain ⟨text, ht, _, _, grows⟩ := written rfl hw
  obtain ⟨before, hbefore, hlabel⟩ := grows hd
  obtain rfl : _ = text := Except.ok.inj <| hc.symm.trans ht
  obtain rfl : "x" = before := Except.ok.inj hbefore
  have hl := (refusals violation).left.mpr hr
  obtain ⟨hblank, _, later⟩ := unwritten rfl
    ⟨.command (.custom "" []), List.mem_cons_self, by simp [Element.IsWritable, Command.opcode]⟩
  refine ⟨hl, (refusals violation).right.mpr hr, (unchanged _ hl).right, hc, hlabel, hblank, ?_⟩
  exact (later [.addRaw "y", .render] <| by simp [Step.clears, Step.bare]).left

end Script

end Zpl
