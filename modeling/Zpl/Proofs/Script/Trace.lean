import Zpl.Proofs.Script.Outcome

namespace Zpl

namespace Step

-- Whether a step fails on a document, be it that the failure is passed over.
def fails (s : Step) (d : Document) : Bool :=
  !(s.bare.run d).result.isOk

def leavesTrace (s : Step) (d : Document) : Bool :=
  !(s.shows || s.fails d)

end Step

mutual

-- The step without what leaves no trace in the bodies of its labels.
def Step.trim : Step → Step
  | .label body   => .label (Script.trim body .empty)
  | .attempt step => .attempt step.trim
  | step          => step

-- The steps of a script that leave a trace when the script is performed on a document.
def Script.trim : Script → Document → Script
  | [], _ => []
  | step :: rest, d =>
    let rest := Script.trim rest (step.run d).document
    if step.leavesTrace d then step.trim :: rest else rest

end

namespace Script

-- The steps of a script, each with the document that it is performed on. After a step that failed
-- the script goes on with the next.
def course : Script → Document → List (Step × Document)
  | [], _ => []
  | step :: rest, d => (step, d) :: course rest (step.run d).document

def finish (s : Script) (d : Document) : Document :=
  s.foldl (fun d step => (step.run d).document) d

end Script

namespace Step

variable {s : Step} {d : Document}

theorem run_document_of_fails (h : s.fails d) : (s.run d).document = d := by
  cases he : (s.bare.run d).result
  case error halt =>
    rw [←bare_run_document]
    exact run_document_of_error he
  case ok a => simp [fails, he] at h

theorem result_of_not_fails (h : ¬s.fails d) : ∃ a, (s.bare.run d).result = .ok a := by
  cases hr : (s.bare.run d).result
  case error => simp [fails, hr] at h
  case ok a  => exact ⟨a, rfl⟩

theorem run_document_of_not_leavesTrace (h : ¬s.leavesTrace d) : (s.run d).document = d := by
  by_cases hs : s.shows
  case pos => exact run_document_of_shows hs
  case neg => exact run_document_of_fails <| by simp_all [leavesTrace]

theorem not_fails_of_leavesTrace (h : s.leavesTrace d) : ¬s.fails d := by
  simp_all [leavesTrace]

theorem trim_of_isOperation (h : s.IsOperation) : s.trim = s := by
  cases s
  case label | attempt => contradiction
  all_goals rfl

end Step

namespace Report

structure Alike (r r' : Report α) : Prop where
  document : r.document = r'.document
  result   : r.result = r'.result

namespace Alike

theorem refl (r : Report α) : r.Alike r :=
  ⟨rfl, rfl⟩

variable {r r' r'' : Report α}

theorem symm (h : r.Alike r') : r'.Alike r :=
  ⟨h.document.symm, h.result.symm⟩

theorem trans (h : r.Alike r') (h' : r'.Alike r'') : r.Alike r'' :=
  ⟨h.document.trans h'.document, h.result.trans h'.result⟩

theorem map (h : r.Alike r') (f : α → β) : (r.map f).Alike (r'.map f) :=
  ⟨h.document, congrArg (·.map f) h.result⟩

theorem passRefusal (h : r.Alike r') (a : α) : (r.passRefusal a).Alike (r'.passRefusal a) where
  document := by simp [h.document]
  result := by
    unfold Report.passRefusal
    rw [h.result]
    cases hr : r'.result
    case ok => simp [h.result]
    case error halt => cases halt <;> simp [h.result]

theorem label {d : Document} {body body' : Document → Report Unit}
    (h : (body .empty).Alike (body' .empty)) : (d.label body).Alike (d.label body') := by
  simp only [Document.label, h.document, h.result]
  cases (body' .empty).result <;> exact ⟨rfl, rfl⟩

theorem andThen {f f' : Document → Report β} (h : r.Alike r')
    (hf : (f r'.document).Alike (f' r'.document)) : (r.andThen f).Alike (r'.andThen f') := by
  simp only [Report.andThen, h.document, h.result]
  cases r'.result
  case error => exact ⟨rfl, rfl⟩
  case ok    => exact ⟨hf.document, hf.result⟩

end Alike

variable {r : Report α} {f : Document → Report β}

theorem andThen_alike (h : r.result = .ok a) : (r.andThen f).Alike (f r.document) := by
  rw [andThen_of_ok h]
  exact ⟨rfl, rfl⟩

theorem exists_result_of_map {g : α → β} (h : (r.map g).result = .ok b) :
    ∃ a, r.result = .ok a := by
  cases hr : r.result
  case ok a  => exact ⟨a, rfl⟩
  case error => simp [hr, Except.map] at h

theorem exists_result_of_andThen (h : (r.andThen f).result = .ok b) : ∃ a, r.result = .ok a := by
  cases hr : r.result
  case ok a  => exact ⟨a, rfl⟩
  case error => simp [andThen_of_error hr] at h

end Report

theorem Document.result_of_label {d : Document} {body : Document → Report Unit}
    (h : (d.label body).result = .ok ()) : (body .empty).result = .ok () := by
  cases hb : (body .empty).result
  case ok    => rfl
  case error => simp [label, hb] at h

namespace Script

variable {step : Step} {d : Document}

theorem trim_cons_of_leavesTrace (h : step.leavesTrace d) (rest : Script) :
    trim (step :: rest) d = step.trim :: trim rest (step.run d).document := by
  simp [trim, h]

theorem trim_cons_of_not_leavesTrace (h : ¬step.leavesTrace d) (rest : Script) :
    trim (step :: rest) d = trim rest d := by
  simp [trim, h, Step.run_document_of_not_leavesTrace h]

end Script

theorem Script.run_trim_alike {s : Script} {d : Document}
    (hs : ∀ step ∈ s, ∀ d, ¬step.fails d → (step.trim.run d).Alike (step.run d))
    (h : (s.run d).result = .ok ()) : ((s.trim d).run d).Alike (s.run d) := by
  induction s generalizing d
  case nil => exact .refl _
  case cons step rest hi =>
    have ⟨hstep, hrest⟩ := List.forall_mem_cons.mp hs
    rw [run] at h ⊢
    obtain ⟨_, hr⟩ := Report.exists_result_of_andThen h
    have ha : ((step.run d).andThen (run rest)).Alike _ := Report.andThen_alike hr
    have hi := hi hrest <| ha.result ▸ h
    by_cases ht : step.leavesTrace d
    case pos =>
      rw [trim_cons_of_leavesTrace ht, run]
      exact (hstep d <| Step.not_fails_of_leavesTrace ht).andThen hi
    case neg =>
      -- The rest goes on where the step has left the document, as if it had not been there.
      rw [trim_cons_of_not_leavesTrace ht]
      rw [Step.run_document_of_not_leavesTrace ht] at ha hi
      exact hi.trans ha.symm

theorem Step.run_trim (s : Step) (d : Document) (h : ¬s.fails d) :
    (s.trim.run d).Alike (s.run d) := by
  induction s generalizing d
  case operation op ho =>
    rw [trim_of_isOperation ho]
    exact .refl _
  case label body hi =>
    -- The label has succeeded only if its body has.
    have ⟨_, hr⟩ := result_of_not_fails h
    have ⟨_, hl⟩ := Report.exists_result_of_map hr
    have hb := Script.run_trim_alike hi <| Document.result_of_label hl
    exact (Report.Alike.label hb).map _
  case attempt step hi =>
    rw [trim, run, run]
    exact (hi d h).passRefusal _

theorem Script.run_trim (s : Script) (d : Document) (h : (s.run d).result = .ok ()) :
    ((s.trim d).run d).Alike (s.run d) :=
  run_trim_alike (fun step _ => step.run_trim) h

theorem Step.run_trim_of_leavesTrace {s : Step} (h : s.leavesTrace d) :
    (s.trim.run d).Alike (s.run d) :=
  s.run_trim d <| not_fails_of_leavesTrace h

namespace Script

theorem course_trim (s : Script) (d : Document) :
    (s.trim d).course d =
      ((s.course d).filter fun p => p.1.leavesTrace p.2).map fun p => (p.1.trim, p.2) := by
  induction s generalizing d
  case nil => rfl
  case cons step rest hi =>
    have hi := hi (step.run d).document
    by_cases ht : step.leavesTrace d
    case pos =>
      have ha := Step.run_trim_of_leavesTrace ht
      simp [trim_cons_of_leavesTrace ht, course, ht, ha.document, hi]
    case neg =>
      have hd := Step.run_document_of_not_leavesTrace ht
      rw [hd] at hi
      simp [trim_cons_of_not_leavesTrace ht, course, ht, hd, hi]

theorem finish_trim (s : Script) (d : Document) : (s.trim d).finish d = s.finish d := by
  induction s generalizing d
  case nil => rfl
  case cons step rest hi =>
    have hi := hi (step.run d).document
    by_cases ht : step.leavesTrace d
    case pos =>
      have ha := Step.run_trim_of_leavesTrace ht
      rw [trim_cons_of_leavesTrace ht, finish, List.foldl_cons, ha.document]
      exact hi
    case neg =>
      have hd := Step.run_document_of_not_leavesTrace ht
      rw [hd] at hi
      rw [trim_cons_of_not_leavesTrace ht, hi, finish, finish, List.foldl_cons, hd]

-- Failure is atomic, also of a label with whatever body, and the steps that leave a trace do by
-- themselves what the whole script does.
theorem failure_leaves_no_trace :
    (∀ (step : Step) (d : Document) (halt : Halt),
      (step.run d).result = .error halt → (step.run d).document = d) ∧
    (∀ (body : Document → Report Unit) (d : Document) (halt : Halt),
      (d.label body).result = .error halt → (d.label body).document = d) ∧
    ∀ (s : Script) (d : Document),
      (s.trim d).finish d = s.finish d ∧
      (s.trim d).course d =
        ((s.course d).filter fun p => p.1.leavesTrace p.2).map (fun p => (p.1.trim, p.2)) ∧
      (∀ p ∈ s.course d, p.1.leavesTrace p.2 →
        (p.1.trim.run p.2).result = (p.1.run p.2).result) ∧
      ((s.run d).result = .ok () → ((s.trim d).run d).Alike (s.run d)) := by
  refine ⟨fun _ _ _ => Step.run_document_of_error, ?label, fun s d => ?script⟩
  case label =>
    intro body d halt
    have h : (d.label body).Outcome (fun _ => True) d :=
      d.label_outcome (fun _ _ => trivial) fun _ _ => trivial
    exact h.document_of_error
  case script =>
    refine ⟨s.finish_trim d, s.course_trim d, fun p _ ht => ?_, s.run_trim d⟩
    exact (Step.run_trim_of_leavesTrace ht).result

theorem failure_leaves_no_trace_in_labels :
    let bad   := Step.emit (.labelLength 0)
    let first := Step.label [.addRaw "a", .attempt bad, .render, .label [.clear, .addRaw "b"]]
    let s     := [first, .json, .label [.addRaw "c", bad], .addRaw "d"]
    (bad.run .empty).document = .empty ∧
      trim s .empty =
        [.label [.addRaw "a", .label [.clear, .addRaw "b"]], .addRaw "d"] ∧
      finish [.label [.addRaw "a", .label [.clear, .addRaw "b"]], .addRaw "d"] .empty =
        finish s .empty ∧
      (first.trim.run .empty).result = .ok .done := by
  intro bad first s
  have ⟨atomic, _, trimmed⟩ := failure_leaves_no_trace
  have ⟨same, _, results, _⟩ := trimmed s .empty
  refine ⟨atomic bad .empty _ rfl, rfl, same, ?_⟩
  exact results (first, .empty) List.mem_cons_self rfl

end Script

end Zpl
