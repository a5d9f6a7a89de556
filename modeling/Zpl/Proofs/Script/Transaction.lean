import Zpl.Proofs.Script.Label

namespace Zpl

-- Performs a script on a document of its own and takes over what that holds in the end, or nothing
-- if the script fails.
def Document.transact (d : Document) (s : Script) : Report Unit :=
  let inner := s.run .empty
  match inner.result with
  | .error halt => ⟨d, inner.events, .error halt⟩
  | .ok _       => inner.behind d

namespace Document

variable {s : Script} (d : Document)

theorem transact_result (s : Script) : (d.transact s).result = (s.run .empty).result := by
  cases h : (s.run .empty).result <;> simp [transact, h]

theorem transact_document_of_error (h : (s.run .empty).result = .error halt) :
    (d.transact s).document = d := by
  simp [transact, h]

theorem transact_document_of_ok (h : (s.run .empty).result = .ok ()) :
    (d.transact s).document = d ++ (s.run .empty).document := by
  simp [transact, h]

theorem transact_eq_run (hs : ∀ step ∈ s, step.OnlyAppends) (h : (s.run .empty).result = .ok ()) :
    d.transact s = s.run d := by
  have hr := Script.run_append hs d .empty
  rw [append_empty] at hr
  simp [transact, h, hr]

end Document

-- The operation is the script made one step, which fails as a whole and then has no effect.
structure Report.Transacts (d : Document) (s : Script) (r : Report Unit) : Prop where
  alike     : r.Alike (d.transact s)
  unchanged : r.result = .error halt → r.document = d
  stepwise  : r.result = .ok () → (s.run d).Alike r
  rendered  : r.result = .ok () → ∀ separator,
    (s.run d).document.renderWith separator = r.document.renderWith separator

theorem Report.Transacts.of_alike {r : Report Unit} (hs : ∀ step ∈ s, step.OnlyAppends)
    (h : r.Alike (Document.transact d s)) : r.Transacts d s where
  alike := h
  unchanged hr := by
    rw [h.result, d.transact_result] at hr
    rw [h.document, d.transact_document_of_error hr]
  stepwise hr := by
    rw [h.result, d.transact_result] at hr
    rw [←d.transact_eq_run hs hr]
    exact h.symm
  rendered hr separator := by
    rw [h.result, d.transact_result] at hr
    rw [←d.transact_eq_run hs hr, h.document]

namespace Document

theorem appendUnless_result (d : Document) (v? : Option Violation) (log : Violation → List Event)
    (es : List Element) :
    (d.appendUnless v? log es).result = v?.elim (.ok ()) (.error <| .rejected ·) := by
  cases v? <;> rfl

theorem emit_result (d : Document) (i : Instruction) :
    (d.emit i).result = i.violation?.elim (.ok ()) (.error <| .rejected ·) :=
  d.appendUnless_result ..

theorem emit_result_eq_ok_iff {d : Document} {i : Instruction} :
    (d.emit i).result = .ok () ↔ i.violation? = none := by
  rw [emit_result]
  cases i.violation? <;> simp

theorem emit_result_eq_error_iff {d : Document} {i : Instruction} :
    (d.emit i).result = .error halt ↔ ∃ v, i.violation? = some v ∧ .rejected v = halt := by
  rw [emit_result]
  cases i.violation? <;> simp

end Document

namespace Script

variable {i : Instruction} (rest : Script) (d : Document)

theorem run_emit_of_accepted (h : i.violation? = none) :
    (run (.emit i :: rest) d).Alike (run rest ⟨d.elements ++ [.ofInstruction i]⟩) := by
  have hs : (Step.emit i).run d = (d.appendAll [.ofInstruction i]).acknowledged := by
    rw [Step.run_emit, Document.emit, h]
  rw [run, hs]
  exact Report.andThen_alike rfl

theorem run_emit_of_refused (h : i.violation? = some v) :
    (run (.emit i :: rest) d).Alike ⟨d, [], .error (.rejected v)⟩ := by
  have hs : ((Step.emit i).run d).result = .error (.rejected v) := by
    rw [Step.run_emit, Document.emit, h]
    rfl
  rw [run, Report.andThen_of_error hs]
  exact ⟨Step.run_document_of_error hs, rfl⟩

-- The instructions before the first that is refused are appended.
theorem run_emits_alike (is : List Instruction) (d : Document) :
    (run (is.map .emit) d).Alike
      ⟨⟨d.elements ++ (is.takeWhile (·.violation?.isNone)).map .ofInstruction⟩, [],
        (is.findSome? (·.violation?)).elim (.ok ()) (.error <| .rejected ·)⟩ := by
  induction is generalizing d
  case nil => exact ⟨by simp [run, Report.done], rfl⟩
  case cons i is hi =>
    cases hv : i.violation?
    case none   => simpa [hv] using (run_emit_of_accepted (is.map .emit) d hv).trans (hi _)
    case some v => simpa [hv] using run_emit_of_refused (is.map .emit) d hv

theorem onlyAppends_emits (is : List Instruction) :
    ∀ step ∈ is.map Step.emit, step.OnlyAppends := by
  rw [List.forall_mem_map]
  exact fun i _ => ⟨by simp [Step.shows, Step.bare], by simp [Step.clears, Step.bare]⟩

end Script

namespace Document

theorem addFieldOf_transacts (is : List Instruction) (d : Document) :
    (d.addFieldOf is).Transacts d (is.map .emit) := by
  apply Report.Transacts.of_alike <| Script.onlyAppends_emits is
  have he := Script.run_emits_alike is .empty
  rw [addFieldOf_eq]
  cases hv : is.findSome? (·.violation?)
  case none =>
    have ha : is.takeWhile (·.violation?.isNone) = is := by
      rw [List.takeWhile_eq_self_iff]
      simpa using hv
    rw [hv, ha] at he
    refine ⟨?document, ?result⟩
    case document => rw [d.transact_document_of_ok he.result, he.document]; rfl
    case result   => rw [d.transact_result, he.result]; rfl
  case some v =>
    rw [hv] at he
    refine ⟨?document, ?result⟩
    case document => rw [d.transact_document_of_error he.result]; rfl
    case result   => rw [d.transact_result, he.result]; rfl

theorem addField_result (d : Document) (x y : Int) (data : String) :
    (d.addField x y data).result = (d.emit (.fieldOrigin x y none)).result := by
  rw [addField, addFieldOf_eq, emit_eq, appendUnless_result, appendUnless_result,
    Instruction.findSome?_violation?_field]

theorem addFontField_result (d : Document) (x y : Int) (face : Font) (height width : Int)
    (data : String) :
    (d.addFontField x y face height width data).result =
      (d.emit (.fieldOrigin x y none)).result.bind fun _ =>
        (d.emit (.font face height width)).result := by
  rw [addFontField, addFieldOf_eq, emit_eq, emit_eq, appendUnless_result, appendUnless_result,
    appendUnless_result, Instruction.findSome?_violation?_fontField]
  cases (Instruction.fieldOrigin x y none).violation? <;> rfl

-- A field is all of its instructions or none of them. It is refused for what its origin is refused
-- for by itself, and otherwise for what the font is, where the steps would leave the origin behind.
theorem fields_transact (d : Document) (x y : Int) (face : Font) (height width : Int)
    (data : String) :
    let origin := Instruction.fieldOrigin x y none
    let font   := Instruction.font face height width
    let steps : Script := [.emit origin, .emit (.fieldData data), .emit .fieldSeparator]
    let fontSteps : Script :=
      [.emit origin, .emit font, .emit (.fieldData data), .emit .fieldSeparator]
    let field     := d.addField x y data
    let fontField := d.addFontField x y face height width data
    field.Transacts d steps ∧ fontField.Transacts d fontSteps ∧
    (∀ halt, (d.emit origin).result = .error halt →
      field.result = .error halt ∧ fontField.result = .error halt) ∧
    ∀ halt, (d.emit origin).result = .ok () → (d.emit font).result = .error halt →
      fontField.result = .error halt ∧ fontField.document = d ∧
      (fontSteps.run d).result = .error halt ∧
      (fontSteps.run d).document.elements = d.elements ++ [.ofInstruction origin] := by
  intro origin font steps fontSteps field fontField
  have hfield : field.Transacts d steps :=
    addFieldOf_transacts [origin, .fieldData data, .fieldSeparator] d
  have hfont : fontField.Transacts d fontSteps :=
    addFieldOf_transacts [origin, font, .fieldData data, .fieldSeparator] d
  have hr : field.result = (d.emit origin).result := d.addField_result ..
  have hfr : fontField.result = (d.emit origin).result.bind fun _ => (d.emit font).result :=
    d.addFontField_result ..
  refine ⟨hfield, hfont, fun halt ho => ?origin, fun halt ho hf => ?font⟩
  case origin =>
    rw [hr, hfr, ho]
    exact ⟨rfl, rfl⟩
  case font =>
    have hfr : fontField.result = .error halt := by
      rw [hfr, ho]
      exact hf
    have ho := emit_result_eq_ok_iff.mp ho
    obtain ⟨v, hv, rfl⟩ := emit_result_eq_error_iff.mp hf
    have hs : (fontSteps.run d).Alike
        ⟨⟨d.elements ++ [.ofInstruction origin]⟩, [], .error (.rejected v)⟩ :=
      (Script.run_emit_of_accepted _ d ho).trans <| Script.run_emit_of_refused _ _ hv
    exact ⟨hfr, hfont.unchanged hfr, hs.result, congrArg elements hs.document⟩

theorem fields_transact_of_refusals :
    let d : Document := ⟨[.raw "a"]⟩
    let steps : Script :=
      [.emit (.fieldOrigin 1 2 none), .emit (.font .a 9 32001), .emit (.fieldData "x"),
        .emit .fieldSeparator]
    (d.addFontField 1 2 .a 9 32001 "x").document = d ∧
      (steps.run d).document.elements = [.raw "a", .ofInstruction (.fieldOrigin 1 2 none)] ∧
      (d.addFontField 32001 (-1) .a 9 9 "x").result =
        .error (.rejected (.outOfRange "^FO" "x" 32001 0 32000)) ∧
      (d.addFontField 1 2 .a 10 32000 "x").document.render.result =
        .ok "a^FO1,2^AA,10,32000^FDx^FS" := by
  intro d steps
  obtain ⟨_, _, _, font_refused⟩ := fields_transact d 1 2 .a 9 32001 "x"
  obtain ⟨_, _, origin_refused, _⟩ := fields_transact d 32001 (-1) .a 9 9 "x"
  obtain ⟨_, accepted, _, _⟩ := fields_transact d 1 2 .a 10 32000 "x"
  obtain ⟨_, unchanged, _, left⟩ := font_refused _ rfl rfl
  refine ⟨unchanged, left, (origin_refused _ rfl).right, ?_⟩
  rw [render, ←accepted.rendered rfl default]
  decide

end Document
end Zpl
