import Zpl.Document.Authoring

namespace Zpl

@[simp]
theorem isOk_ok (a : α) : (.ok a : Except ε α).isOk = true :=
  rfl

@[simp]
theorem isOk_error (e : ε) : (.error e : Except ε α).isOk = false :=
  rfl

namespace Report

theorem andThen_of_ok {r : Report α} (h : r.result = .ok a) (f : Document → Report β) :
    r.andThen f = { f r.document with events := r.events ++ (f r.document).events } := by
  simp [andThen, h]

theorem andThen_of_error {r : Report α} (h : r.result = .error halt) (f : Document → Report β) :
    r.andThen f = ⟨r.document, r.events, .error halt⟩ := by
  simp [andThen, h]

@[simp]
theorem map_document (r : Report α) (f : α → β) : (r.map f).document = r.document :=
  rfl

@[simp]
theorem map_result (r : Report α) (f : α → β) : (r.map f).result = r.result.map f :=
  rfl

@[simp]
theorem passRefusal_document (r : Report α) (a : α) : (r.passRefusal a).document = r.document := by
  rw [passRefusal]
  split <;> rfl

@[simp]
theorem passRefusal_events (r : Report α) (a : α) : (r.passRefusal a).events = r.events := by
  rw [passRefusal]
  split <;> rfl

-- The outcomes of an operation on a document, where `p` holds of the elements that it appends.
inductive Outcome (p : Element → Prop) (d : Document) : Report α → Prop
  | failed {log}  : Outcome p d ⟨d, log, .error halt⟩
  | grown {log}   : (∀ e ∈ es, p e) → Outcome p d ⟨⟨d.elements ++ es⟩, log, .ok a⟩
  | cleared {log} : Outcome p d ⟨.empty, log, .ok a⟩

namespace Outcome

variable {p : Element → Prop} {d : Document} {r : Report α}

theorem of_document_eq (h : r.document = d) : r.Outcome p d := by
  subst h
  cases r
  case mk d log result =>
    cases result
    case error => exact .failed
    case ok a  =>
      have h : Outcome p d ⟨⟨d.elements ++ []⟩, log, .ok a⟩ := .grown fun _ he => nomatch he
      rwa [List.append_nil] at h

theorem map {f : α → β} : r.Outcome p d → (r.map f).Outcome p d
  | .failed   => .failed
  | .grown he => .grown he
  | .cleared  => .cleared

theorem passRefusal (h : r.Outcome p d) (a : α) : (r.passRefusal a).Outcome p d := by
  cases h
  case failed halt _ =>
    cases halt
    case rejected    => exact .of_document_eq rfl
    case emptyOpcode => exact .failed
  case grown => exact .grown ‹_›
  case cleared => exact .cleared

theorem document_of_error (h : r.Outcome p d) (he : r.result = .error halt) : r.document = d := by
  cases h
  case failed => rfl
  all_goals contradiction

theorem forall_mem (hd : ∀ e ∈ d.elements, p e) : r.Outcome p d → ∀ e ∈ r.document.elements, p e
  | .failed   => hd
  | .grown he => List.forall_mem_append.mpr ⟨hd, he⟩
  | .cleared  => fun _ he => nomatch he

end Outcome
end Report

namespace Document

-- Appends the elements unless there is a violation, which the log is told in some way. So do all
-- operations that append, labels apart.
def appendUnless (d : Document) (v? : Option Violation) (log : Violation → List Event)
    (es : List Element) : Report Unit :=
  match v? with
  | some v => ⟨d, log v, .error (.rejected v)⟩
  | none   => d.appendAll es

variable {p : Element → Prop} (d : Document)

theorem addRaw_eq (text : String) : d.addRaw text = d.appendUnless none (fun _ => []) [.raw text] :=
  rfl

theorem add_eq (c : Command) : d.add c = d.appendUnless c.violation? (fun _ => []) [.command c] :=
  rfl

theorem emit_eq (i : Instruction) :
    d.emit i = d.appendUnless i.violation? (fun v => [.rejectedCommand v.command v.message])
      [.ofInstruction i] :=
  rfl

theorem addFieldOf_eq (is : List Instruction) :
    d.addFieldOf is = d.appendUnless (is.findSome? (·.violation?))
      (fun v => [.rejectedField v.message]) (is.map .ofInstruction) :=
  rfl

theorem bracketed_eq (es : List Element) :
    bracketed es = [.ofInstruction .startFormat] ++ es ++ [.ofInstruction .endFormat] :=
  rfl

theorem appendUnless_outcome {v? : Option Violation} {log : Violation → List Event}
    {es : List Element} (h : v? = none → ∀ e ∈ es, p e) :
    (d.appendUnless v? log es).Outcome p d := by
  cases v?
  case none => exact .grown <| h rfl
  case some => exact .failed

theorem addRaw_outcome {text : String} (h : p (.raw text)) : (d.addRaw text).Outcome p d := by
  rw [addRaw_eq]
  exact d.appendUnless_outcome fun _ => by simpa using h

theorem add_outcome {c : Command} (h : c.violation? = none → p (.command c)) :
    (d.add c).Outcome p d := by
  rw [add_eq]
  exact d.appendUnless_outcome fun hv => by simpa using h hv

section

variable (made : ∀ i : Instruction, i.violation? = none → p (.ofInstruction i))

include made

theorem emit_outcome (i : Instruction) : (d.emit i).Outcome p d := by
  rw [emit_eq]
  exact d.appendUnless_outcome fun hv => by simpa using made i hv

theorem addFieldOf_outcome (is : List Instruction) : (d.addFieldOf is).Outcome p d := by
  rw [addFieldOf_eq]
  apply d.appendUnless_outcome
  intro hv
  rw [List.forall_mem_map]
  exact fun i hi => made i <| List.findSome?_eq_none_iff.mp hv i hi

theorem label_outcome {body : Document → Report Unit}
    (hb : ∀ e ∈ (body empty).document.elements, p e) : (d.label body).Outcome p d := by
  rw [label]
  cases (body empty).result
  case error => exact .failed
  case ok    =>
    apply Report.Outcome.grown
    rw [bracketed, List.forall_mem_append, List.forall_mem_cons, List.forall_mem_singleton]
    exact ⟨⟨made _ rfl, hb⟩, made _ rfl⟩

end

@[simp]
theorem renderWith_document (separator : Separator) : (d.renderWith separator).document = d := by
  rw [renderWith]
  split <;> rfl

@[simp]
theorem render_document : d.render.document = d :=
  d.renderWith_document default

@[simp]
theorem display_document : d.display.document = d :=
  d.render_document

end Document
end Zpl
