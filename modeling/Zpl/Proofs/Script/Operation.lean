import Zpl.Proofs.Document.Outcome
import Zpl.Script.Run

namespace Zpl

@[simp]
theorem Document.elementText_document (d : Document) (index : Nat) :
    (d.elementText index).document = d := by
  rw [elementText]
  split
  case h_1 => rfl
  case h_2 => split <;> rfl

mutual

-- The operations of which a step is made: those in the bodies of its labels, and those attempted.
def Step.leaves : Step → List Step
  | .label body   => Script.leaves body
  | .attempt step => step.leaves
  | step          => [step]

def Script.leaves : Script → List Step
  | []           => []
  | step :: rest => step.leaves ++ Script.leaves rest

end

namespace Step

-- The step whose refusals the attempts at it pass over.
def bare : Step → Step
  | attempt step => step.bare
  | step         => step

def shows (s : Step) : Bool :=
  match s.bare with
  | render | renderWith _ | display | dump | json | isEmpty | element _ => true
  | _ => false

def clears (s : Step) : Bool :=
  match s.bare with
  | clear => true
  | _     => false

def IsOperation : Step → Prop
  | label _ | attempt _ => False
  | _                   => True

def IsAppending : Step → Prop
  | addRaw _ | add _ | emit _ | addField .. | addFontField .. => True
  | _ => False

-- The induction is on bodies in bodies. Which operations there are is left to `IsOperation.cases`
-- and to what is said of a single one.
@[induction_eliminator]
theorem induct {motive : Step → Prop} (operation : ∀ op : Step, op.IsOperation → motive op)
    (label : ∀ body : Script, (∀ step ∈ body, motive step) → motive (label body))
    (attempt : ∀ step : Step, motive step → motive step.attempt) : (s : Step) → motive s
  | .label body   => label body fun step _ => step.induct operation label attempt
  | .attempt step => attempt step <| step.induct operation label attempt
  | addRaw _ | add _ | emit _ | addField .. | addFontField .. | clear | render | renderWith _
  | display | dump | json | isEmpty | element _ | fail _ => operation _ trivial

variable {s : Step}

theorem IsAppending.isOperation (h : s.IsAppending) : s.IsOperation := by
  cases s <;> trivial

@[elab_as_elim]
theorem IsOperation.cases {motive : (s : Step) → s.IsOperation → Prop}
    (appends : ∀ s (h : s.IsAppending), motive s h.isOperation)
    (shows : ∀ s (h : s.IsOperation), s.shows → motive s h)
    (clear : motive .clear trivial) (fail : ∀ v, motive (.fail v) trivial) (s : Step)
    (h : s.IsOperation) : motive s h := by
  match s with
  | .addRaw _ | .add _ | .emit _ | .addField .. | .addFontField .. => exact appends _ (by trivial)
  | .render | .renderWith _ | .display | .dump | .json | .isEmpty | .element _ => exact shows _ h rfl
  | .clear  => exact clear
  | .fail v => exact fail v

theorem bare_of_isOperation (h : s.IsOperation) : s.bare = s := by
  cases s
  case attempt => contradiction
  all_goals rfl

theorem leaves_of_isOperation (h : s.IsOperation) : s.leaves = [s] := by
  cases s
  case label | attempt => contradiction
  all_goals rfl

theorem bare_bare (s : Step) : s.bare.bare = s.bare := by
  induction s
  case operation op ho => rw [bare_of_isOperation ho, bare_of_isOperation ho]
  case label           => rfl
  case attempt hi      => exact hi

theorem shows_bare (s : Step) : s.bare.shows = s.shows := by
  rw [shows, shows, bare_bare]

theorem clears_iff_bare_eq : s.clears ↔ s.bare = .clear := by
  unfold clears
  split
  case h_1 h => simp [h]
  case h_2 h => simpa using h

theorem run_emit (i : Instruction) (d : Document) :
    (emit i).run d = (d.emit i).acknowledged := by
  rw [run, Document.make_eq_emit]

theorem run_label_document (body : Script) (d : Document) :
    ((label body).run d).document = (d.label body.run).document :=
  rfl

theorem run_attempt_document (s : Step) (d : Document) :
    (s.attempt.run d).document = (s.run d).document := by
  rw [run, Report.passRefusal_document]

theorem bare_run_document (s : Step) (d : Document) :
    (s.bare.run d).document = (s.run d).document := by
  induction s
  case operation op ho   => rw [bare_of_isOperation ho]
  case label             => rfl
  case attempt step hi   => rw [run_attempt_document, ←hi, bare]

theorem IsOperation.run_of_shows (ho : s.IsOperation) (h : s.shows) (d : Document) :
    (∃ separator, s.run d = (d.renderWith separator).map .text) ∨
    (∃ index, s.run d = d.elementText index) ∨ ∃ a, s.run d = .done d a := by
  cases s
  case render | renderWith | display => exact .inl ⟨_, rfl⟩
  case element                       => exact .inr <| .inl ⟨_, rfl⟩
  case dump | json | isEmpty         => exact .inr <| .inr ⟨_, rfl⟩
  all_goals contradiction

theorem run_document_of_shows {d : Document} (h : s.shows) : (s.run d).document = d := by
  induction s
  case operation op ho =>
    obtain ⟨_, hr⟩ | ⟨_, hr⟩ | ⟨_, hr⟩ := ho.run_of_shows h d
    all_goals simp [hr, Report.done]
  case label           => contradiction
  case attempt step hi =>
    rw [run_attempt_document]
    exact hi h

theorem run_of_clears (h : s.clears) (d : Document) : s.run d = .done .empty .done := by
  rw [clears_iff_bare_eq] at h
  induction s
  case operation op ho =>
    rw [bare_of_isOperation ho] at h
    rw [h, run]
  case label           => contradiction
  case attempt step hi =>
    rw [run, hi h]
    rfl

def elements : Step → List Element
  | addRaw text => [.raw text]
  | add c => [.command c]
  | emit i => [.ofInstruction i]
  | addField x y data =>
    [Instruction.fieldOrigin x y none, .fieldData data, .fieldSeparator].map .ofInstruction
  | addFontField x y face height width data =>
    [Instruction.fieldOrigin x y none, .font face height width, .fieldData data,
      .fieldSeparator].map .ofInstruction
  | _ => []

theorem run_eq_appendUnless (h : s.IsAppending) :
    ∃ v? log, ∀ d, s.run d = (d.appendUnless v? log s.elements).acknowledged := by
  match s with
  | .addRaw _ => exact ⟨none, fun _ => [], fun _ => rfl⟩
  | .emit i => exact ⟨_, _, run_emit i⟩
  | .add _ | .addField .. | .addFontField .. => exact ⟨_, _, fun _ => rfl⟩

end Step

theorem Script.leaves_eq_flatMap (s : Script) : Script.leaves s = s.flatMap Step.leaves := by
  induction s
  case nil               => rfl
  case cons step rest hi => rw [leaves, hi, List.flatMap_cons]

theorem Script.forall_mem_leaves {s : Script} {p : Step → Prop} :
    (∀ op ∈ Script.leaves s, p op) ↔ ∀ step ∈ s, ∀ op ∈ step.leaves, p op := by
  rw [leaves_eq_flatMap, List.forall_mem_flatMap]

theorem Script.run_induction {P : Document → Prop} {s : Script} {d : Document}
    (h : ∀ step ∈ s, ∀ d, P d → P (step.run d).document) (hd : P d) : P (s.run d).document := by
  induction s generalizing d
  case nil => exact hd
  case cons step rest hi =>
    have ⟨hs, hr⟩ := List.forall_mem_cons.mp h
    have hd : P (step.run d).document := hs d hd
    rw [run]
    cases he : (step.run d).result
    case error => rwa [Report.andThen_of_error he]
    case ok    =>
      rw [Report.andThen_of_ok he]
      exact hi hr hd

end Zpl
