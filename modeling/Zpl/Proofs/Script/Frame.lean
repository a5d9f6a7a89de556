import Zpl.Proofs.Script.Trace

namespace Zpl

instance : Append Document where
  append d e := ⟨d.elements ++ e.elements⟩

namespace Document

@[simp]
theorem append_elements (d e : Document) : (d ++ e).elements = d.elements ++ e.elements :=
  rfl

@[simp]
theorem append_empty (d : Document) : d ++ empty = d := by
  ext1
  simp [empty]

end Document

namespace Report

def behind (d : Document) (r : Report α) : Report α :=
  { r with document := d ++ r.document }

variable (d : Document) (r : Report α)

@[simp]
theorem behind_document : (r.behind d).document = d ++ r.document :=
  rfl

@[simp]
theorem behind_result : (r.behind d).result = r.result :=
  rfl

theorem passRefusal_behind (a : α) : (r.behind d).passRefusal a = (r.passRefusal a).behind d := by
  unfold passRefusal
  rw [behind_result]
  split <;> rfl

theorem andThen_behind {f : Document → Report β} (h : ∀ e, f (d ++ e) = (f e).behind d) :
    (r.behind d).andThen f = (r.andThen f).behind d := by
  unfold andThen
  rw [behind_result, behind_document, h]
  split <;> rfl

end Report

namespace Document

variable (d e : Document)

theorem appendAll_append (es : List Element) :
    (d ++ e).appendAll es = (e.appendAll es).behind d := by
  ext1
  case document => ext1; simp [appendAll]
  all_goals rfl

theorem appendUnless_append (v? : Option Violation) (log : Violation → List Event)
    (es : List Element) :
    (d ++ e).appendUnless v? log es = (e.appendUnless v? log es).behind d := by
  cases v?
  case none => exact d.appendAll_append e es
  case some => rfl

theorem label_append (body : Document → Report Unit) :
    (d ++ e).label body = (e.label body).behind d := by
  cases h : (body empty).result
  case error => simp [label, h, Report.behind]
  case ok    => simp [label, h, Report.behind, appendAll_append]

end Document

namespace Step

structure OnlyAppends (s : Step) : Prop where
  not_shows  : ¬s.shows
  not_clears : ¬s.clears

theorem OnlyAppends.of_attempt {s : Step} (h : s.attempt.OnlyAppends) : s.OnlyAppends :=
  ⟨h.not_shows, h.not_clears⟩

theorem run_append {s : Step} (h : s.OnlyAppends) (d e : Document) :
    s.run (d ++ e) = (s.run e).behind d := by
  induction s
  case operation op ho =>
    induction op, ho using IsOperation.cases
    case appends ha =>
      have ⟨v?, log, he⟩ := run_eq_appendUnless ha
      rw [he, he]
      exact congrArg Report.acknowledged <| d.appendUnless_append e v? log _
    case shows hs   => exact absurd hs h.not_shows
    case clear      => exact absurd rfl h.not_clears
    case fail       => rfl
  case label body _    => exact congrArg Report.acknowledged <| d.label_append e _
  case attempt step hi => rw [run, run, hi h.of_attempt, Report.passRefusal_behind]

theorem run_eq_behind {s : Step} (h : s.OnlyAppends) (d : Document) :
    s.run d = (s.run .empty).behind d := by
  conv_lhs => rw [←d.append_empty]
  exact run_append h d .empty

theorem run_result_congr {s : Step} (h : ¬s.shows) (d d' : Document) :
    (s.run d).result = (s.run d').result := by
  by_cases hc : s.clears
  case pos => rw [run_of_clears hc, run_of_clears hc]
  case neg =>
    -- On either document the step does what it does on an empty one.
    rw [run_eq_behind ⟨h, hc⟩ d, run_eq_behind ⟨h, hc⟩ d', Report.behind_result,
      Report.behind_result]

-- What the step gives, and what the script is told of it when the step is only attempted.
def results (s : Step) (d : Document) : Except Halt Answer × Except Halt Answer :=
  ((s.bare.run d).result, (s.run d).result)

theorem results_congr {s : Step} (h : ¬s.shows) (d d' : Document) : s.results d = s.results d' := by
  have hb : ¬s.bare.shows := by rwa [shows_bare]
  rw [results, results, run_result_congr h d d', run_result_congr hb d d']

end Step

namespace Script

-- The steps that are performed as the body of a label, where nothing comes after a step that fails.
def performed : Script → Document → List (Step × Document)
  | [], _ => []
  | step :: rest, d =>
    (step, d) :: if (step.run d).result.isOk then performed rest (step.run d).document else []

def results (s : Script) (d : Document) : List (Step × Except Halt Answer × Except Halt Answer) :=
  (s.course d).map fun p => (p.1, p.1.results p.2)

def bodyResults (s : Script) (d : Document) :
    List (Step × Except Halt Answer × Except Halt Answer) :=
  (s.performed d).map fun p => (p.1, p.1.results p.2)

variable {s : Script}

theorem run_document_eq_finish (s : Script) (d : Document) :
    (s.run d).document = finish ((s.performed d).map Prod.fst) d := by
  induction s generalizing d
  case nil => rfl
  case cons step rest hi =>
    cases hr : (step.run d).result
    case error => simp [run, performed, Report.andThen_of_error hr, hr, finish]
    case ok    => simp [run, performed, Report.andThen_of_ok hr, hr, finish, hi]

theorem performed_isPrefix (s : Script) (d : Document) : (s.performed d).map Prod.fst <+: s := by
  induction s generalizing d
  case nil => exact List.nil_prefix
  case cons step rest hi =>
    rw [performed, List.map_cons, List.prefix_cons_inj]
    split
    case isTrue  => exact hi _
    case isFalse => exact List.nil_prefix

theorem results_congr (h : ∀ step ∈ s, ¬step.shows) (d d' : Document) :
    s.results d = s.results d' := by
  induction s generalizing d d'
  case nil => rfl
  case cons step rest hi =>
    have ⟨hs, hr⟩ := List.forall_mem_cons.mp h
    have ht := hi hr (step.run d).document (step.run d').document
    rw [results, results] at ht ⊢
    simp [course, Step.results_congr hs d d', ht]

theorem bodyResults_congr (h : ∀ step ∈ s, ¬step.shows) (d d' : Document) :
    s.bodyResults d = s.bodyResults d' := by
  induction s generalizing d d'
  case nil => rfl
  case cons step rest hi =>
    have ⟨hs, hr⟩ := List.forall_mem_cons.mp h
    have ht := hi hr (step.run d).document (step.run d').document
    rw [bodyResults, bodyResults] at ht ⊢
    rw [performed, performed, Step.run_result_congr hs d d']
    split <;> simp [Step.results_congr hs d d', ht]

theorem run_result_congr (h : ∀ step ∈ s, ¬step.shows) (d d' : Document) :
    (s.run d).result = (s.run d').result := by
  induction s generalizing d d'
  case nil => rfl
  case cons step rest hi =>
    have ⟨hs, hr⟩ := List.forall_mem_cons.mp h
    rw [run, run, Report.andThen, Report.andThen, Step.run_result_congr hs d d']
    split
    case h_1 => rfl
    case h_2 => exact hi hr _ _

theorem finish_append (h : ∀ step ∈ s, step.OnlyAppends) (d e : Document) :
    s.finish (d ++ e) = d ++ s.finish e := by
  induction s generalizing e
  case nil => rfl
  case cons step rest hi =>
    have ⟨hs, hr⟩ := List.forall_mem_cons.mp h
    rw [finish, List.foldl_cons, Step.run_append hs]
    exact hi hr _

theorem finish_of_clears (h : ∀ step ∈ s, ¬step.shows) (hc : ∃ step ∈ s, step.clears)
    (d d' : Document) : s.finish d = s.finish d' := by
  induction s generalizing d d'
  case nil => simp at hc
  case cons step rest hi =>
    rw [finish, finish, List.foldl_cons, List.foldl_cons]
    by_cases hs : step.clears
    case pos => rw [Step.run_of_clears hs, Step.run_of_clears hs]
    case neg =>
      have hc : ∃ step ∈ rest, step.clears := by simpa [hs] using hc
      exact hi (List.forall_mem_cons.mp h).right hc _ _

theorem run_append (h : ∀ step ∈ s, step.OnlyAppends) (d e : Document) :
    s.run (d ++ e) = (s.run e).behind d := by
  induction s generalizing e
  case nil => rfl
  case cons step rest hi =>
    have ⟨hs, hr⟩ := List.forall_mem_cons.mp h
    rw [run, run, Step.run_append hs, Report.andThen_behind _ _ (hi hr)]

theorem run_document_of_clears (h : ∀ step ∈ s, ¬step.shows) (hc : ∃ p ∈ s.performed d, p.1.clears)
    (d' : Document) : (s.run d').document = (s.run d).document := by
  have hm (d : Document) : (s.bodyResults d).map Prod.fst = (s.performed d).map Prod.fst := by
    simp [bodyResults, Function.comp_def]
  have hp : (s.performed d').map Prod.fst = (s.performed d).map Prod.fst := by
    rw [←hm, ←hm, bodyResults_congr h d' d]
  rw [run_document_eq_finish, run_document_eq_finish, hp]
  apply finish_of_clears
  case h  => exact fun step hs => h step <| (performed_isPrefix s d).subset hs
  case hc => simpa using hc

-- A script that shows nothing itself appends the same with the same results whatever is already
-- there, or leaves the same once it has cleared the document. This is so for the script of a body,
-- too, which halts at a failure.
theorem appends_whatever_is_there (h : ∀ step ∈ s, ¬step.shows) (d : Document) :
    s.results d = s.results .empty ∧
    s.bodyResults d = s.bodyResults .empty ∧
    (s.run d).result = (s.run .empty).result ∧
    ((∀ step ∈ s, ¬step.clears) →
      (s.finish d).elements = d.elements ++ (s.finish .empty).elements ∧
      (s.run d).document.elements = d.elements ++ (s.run .empty).document.elements) ∧
    ((∃ step ∈ s, step.clears) → ∀ d', s.finish d' = s.finish d) ∧
    ((∃ p ∈ s.performed d, p.1.clears) → ∀ d', (s.run d').document = (s.run d).document) := by
  refine ⟨results_congr h d .empty, bodyResults_congr h d .empty, run_result_congr h d .empty,
    fun hc => ?grows, fun hc d' => finish_of_clears h hc d' d, run_document_of_clears h⟩
  have ha : ∀ step ∈ s, step.OnlyAppends := fun step hs => ⟨h step hs, hc step hs⟩
  have hf := finish_append ha d .empty
  have hr := run_append ha d .empty
  rw [Document.append_empty] at hf hr
  simp [hf, hr]

theorem appends_whatever_is_there_of_failures :
    let blank : Command := .custom "" []
    let s : Script :=
      [.label [.addRaw "a", .render, .clear, .attempt (.emit (.labelLength 0)), .addRaw "b"],
       .attempt (.emit (.labelLength 0)), .add blank, .label [.add blank, .display], .addRaw "c"]
    let d : Document := ⟨[.raw "x"]⟩
    (∀ step ∈ s, ¬step.shows) ∧ (∀ step ∈ s, ¬step.clears) ∧
      s.results d = s.results .empty ∧
      (s.finish d).elements =
        [.raw "x", .ofInstruction .startFormat, .raw "b", .ofInstruction .endFormat, .command blank,
          .raw "c"] ∧
      (s.run d).result = .error .emptyOpcode ∧
      finish (s ++ [.clear]) d = finish (s ++ [.clear]) .empty := by
  intro blank s d
  have h : ∀ step ∈ s, ¬step.shows := by simp [s, Step.shows, Step.bare]
  have hc : ∀ step ∈ s, ¬step.clears := by simp [s, Step.clears, Step.bare]
  have hcleared : ∀ step ∈ s ++ [.clear], ¬step.shows :=
    List.forall_mem_append.mpr ⟨h, by simp [Step.shows, Step.bare]⟩
  obtain ⟨results, _, result, grows, _⟩ := appends_whatever_is_there h d
  obtain ⟨_, _, _, _, cleared, _⟩ := appends_whatever_is_there hcleared .empty
  refine ⟨h, hc, results, (grows hc).left.trans rfl, result.trans rfl, ?_⟩
  exact cleared ⟨.clear, by simp, rfl⟩ d

end Script
end Zpl
