import Mathlib.Combinatorics.Enumerative.DyckWord
import Zpl.Proofs.Script.Label
import Zpl.Proofs.Script.Reaches

namespace Zpl

open DyckStep

def bracketOf (opcode : String) : Option DyckStep :=
  if opcode = "^XA" then some U else if opcode = "^XZ" then some D else none

namespace Element

def opcode? : Element → Option String
  | command c => some c.opcode
  | raw _     => none

def opcodes (es : List Element) : List String :=
  es.filterMap opcode?

@[simp]
theorem opcode?_raw (text : String) : (raw text).opcode? = none :=
  rfl

@[simp]
theorem opcode?_command (c : Command) : (command c).opcode? = some c.opcode :=
  rfl

@[simp]
theorem opcode?_ofInstruction (i : Instruction) : (ofInstruction i).opcode? = some i.opcode :=
  rfl

def bracket? (e : Element) : Option DyckStep :=
  e.opcode?.bind bracketOf

def brackets (es : List Element) : List DyckStep :=
  es.filterMap bracket?

theorem brackets_append (xs ys : List Element) :
    brackets (xs ++ ys) = brackets xs ++ brackets ys := by
  simp [brackets]

theorem brackets_bracketed (es : List Element) :
    brackets (Document.bracketed es) = U :: brackets es ++ [D] := by
  have hu : brackets [.ofInstruction .startFormat] = [U] := by decide
  have hd : brackets [.ofInstruction .endFormat] = [D] := by decide
  rw [Document.bracketed_eq, brackets_append, brackets_append, hu, hd]
  rfl

theorem bracketOf_eq_U_iff : bracketOf opcode = some U ↔ opcode = "^XA" := by
  unfold bracketOf
  split
  case isTrue h  => simp [h]
  case isFalse h => simp [h]

theorem bracketOf_eq_D_iff : bracketOf opcode = some D ↔ opcode = "^XZ" := by
  unfold bracketOf
  split
  case isTrue h  => simp [h]
  case isFalse h => simp

theorem count_brackets (h : ∀ o, bracketOf o = some side ↔ o = opcode) (es : List Element) :
    (brackets es).count side = (opcodes es).count opcode := by
  have he (e : Element) : e.bracket? = some side ↔ e.opcode? = some opcode := by
    simp [bracket?, Option.bind_eq_some_iff, h]
  simp only [brackets, opcodes, List.count_filterMap, beq_eq_beq.mpr (he _)]

theorem count_U_brackets (es : List Element) :
    (brackets es).count U = (opcodes es).count "^XA" :=
  count_brackets (fun _ => bracketOf_eq_U_iff) es

theorem count_D_brackets (es : List Element) :
    (brackets es).count D = (opcodes es).count "^XZ" :=
  count_brackets (fun _ => bracketOf_eq_D_iff) es

-- Brackets that pair off do so in the text as well: none is closed before it is opened.
theorem count_le_count_of_dyckWord {es : List Element} (w : DyckWord) (h : w.toList = brackets es)
    (hp : xs <+: es) : (opcodes xs).count "^XZ" ≤ (opcodes xs).count "^XA" := by
  have hb : brackets xs <+: w.toList := h ▸ hp.filterMap bracket?
  rw [←count_D_brackets, ←count_U_brackets, List.prefix_iff_eq_take.mp hb]
  exact w.count_D_le_count_U _

theorem count_eq_count_of_dyckWord {es : List Element} (w : DyckWord) (h : w.toList = brackets es) :
    (opcodes es).count "^XZ" = (opcodes es).count "^XA" := by
  rw [←count_D_brackets, ←count_U_brackets, ←h]
  exact w.count_U_eq_count_D.symm

end Element

namespace Document

def brackets (d : Document) : List DyckStep :=
  Element.brackets d.elements

def Balanced (d : Document) : Prop :=
  ∃ w : DyckWord, w.toList = d.brackets

theorem empty_balanced : empty.Balanced :=
  ⟨0, rfl⟩

variable (d : Document)

theorem brackets_appendUnless {es : List Element} (h : ∀ e ∈ es, e.bracket? = none)
    (v? : Option Violation) (log : Violation → List Event) :
    (d.appendUnless v? log es).document.brackets = d.brackets := by
  have he : Element.brackets es = [] := by simpa [Element.brackets] using h
  cases v?
  case none => simp [brackets, appendUnless, appendAll, Element.brackets_append, he]
  case some => rfl

theorem brackets_label_of_ok {body : Document → Report Unit} (h : (body empty).result = .ok ()) :
    (d.label body).document.brackets =
      d.brackets ++ (U :: (body empty).document.brackets ++ [D]) := by
  rw [brackets, label_elements_of_ok h, Element.brackets_append, Element.brackets_bracketed]
  rfl

end Document

def Step.bracket? : Step → Option DyckStep
  | add c  => bracketOf c.opcode
  | emit i => bracketOf i.opcode
  | _      => none

namespace Step

variable {s : Step}

theorem IsAppending.bracket?_elements (h : s.IsAppending) (hb : s.bracket? = none) :
    ∀ e ∈ s.elements, e.bracket? = none := by
  match s with
  | .addRaw _ => simp [elements, Element.bracket?]
  | .add _ | .emit _ => simpa [elements, Element.bracket?, bracket?] using hb
  | .addField .. | .addFontField .. =>
    simp [elements, Element.bracket?, Instruction.opcode, bracketOf]

theorem IsOperation.brackets_run (h : s.IsOperation) (hb : s.bracket? = none) (hc : ¬s.clears)
    (d : Document) : (s.run d).document.brackets = d.brackets := by
  induction s, h using IsOperation.cases
  case appends s ha =>
    have ⟨v?, log, he⟩ := run_eq_appendUnless ha
    rw [he]
    exact d.brackets_appendUnless (ha.bracket?_elements hb) v? log
  case shows hs => rw [run_document_of_shows hs]
  case clear    => exact absurd rfl hc
  case fail     => rfl

theorem run_balanced (s : Step) (d : Document) (hb : ∀ op ∈ s.leaves, op.bracket? = none)
    (h : d.Balanced) : (s.run d).document.Balanced := by
  induction s generalizing d
  case operation op ho =>
    by_cases hc : op.clears
    case pos =>
      rw [run_of_clears hc]
      exact Document.empty_balanced
    case neg =>
      rw [leaves_of_isOperation ho, List.forall_mem_singleton] at hb
      exact h.imp fun w hw => hw.trans (ho.brackets_run hb hc d).symm
  case label body hi =>
    have hb := Script.forall_mem_leaves.mp hb
    rw [run_label_document]
    cases hr : (Script.run body .empty).result
    case error => rwa [Document.label_document_of_error hr]
    case ok    =>
      -- The body began with no brackets, so what the label nests is balanced by itself.
      have ⟨w, hw⟩ := h
      have ⟨inner, hinner⟩ : (Script.run body .empty).document.Balanced :=
        Script.run_induction (fun step hs d => hi step hs d <| hb step hs) Document.empty_balanced
      refine ⟨w + inner.nest, ?_⟩
      rw [Document.brackets_label_of_ok d hr, ←hw, ←hinner]
      rfl
  case attempt step hi =>
    rw [run_attempt_document]
    exact hi d hb h

end Step

theorem Step.balanced_invariant : Step.Invariant (·.bracket? = none) Document.Balanced where
  empty := Document.empty_balanced
  run s d hb h := s.run_balanced d hb h

mutual

-- The labels that are begun when a step is performed, each with whether it succeeds, and before
-- that whether the labels around it do, from the outermost on.
def Step.labelCalls : Step → Document → List (List Bool)
  | .label body, _ =>
    let succeeds := (Script.run body .empty).result.isOk
    [succeeds] :: (Script.labelCalls body .empty).map (succeeds :: ·)
  | .attempt step, d => step.labelCalls d
  | _, _ => []

def Script.labelCalls : Script → Document → List (List Bool)
  | [], _ => []
  | step :: rest, d =>
    step.labelCalls d ++
      if (step.run d).result.isOk then Script.labelCalls rest (step.run d).document else []

end

def keptLabels (calls : List (List Bool)) : Nat :=
  calls.countP (·.all id)

@[simp]
theorem keptLabels_nil : keptLabels [] = 0 :=
  rfl

@[simp]
theorem keptLabels_label (succeeds : Bool) (calls : List (List Bool)) :
    keptLabels ([succeeds] :: calls.map (succeeds :: ·)) =
      if succeeds then keptLabels calls + 1 else 0 := by
  cases succeeds <;> simp [keptLabels, Function.comp_def]

theorem keptLabels_append (xs ys : List (List Bool)) :
    keptLabels (xs ++ ys) = keptLabels xs + keptLabels ys :=
  List.countP_append

theorem Script.count_run {s : Script} {d : Document}
    (h : ∀ step ∈ s, ∀ d, (step.run d).document.brackets.count U =
      d.brackets.count U + keptLabels (step.labelCalls d)) :
    (s.run d).document.brackets.count U =
      d.brackets.count U + keptLabels (Script.labelCalls s d) := by
  induction s generalizing d
  case nil => rfl
  case cons step rest hi =>
    have ⟨hs, hr⟩ := List.forall_mem_cons.mp h
    have hs := hs d
    rw [run, labelCalls, keptLabels_append]
    cases he : (step.run d).result
    case error => simpa [Report.andThen_of_error he] using hs
    case ok    => simp [Report.andThen_of_ok he, hi hr, hs, Nat.add_assoc]

theorem Step.labelCalls_of_isOperation {s : Step} (h : s.IsOperation) (d : Document) :
    s.labelCalls d = [] := by
  cases s
  case label | attempt => contradiction
  all_goals rfl

theorem Step.count_run (s : Step) (d : Document)
    (h : ∀ op ∈ s.leaves, op.bracket? = none ∧ ¬op.clears) :
    (s.run d).document.brackets.count U = d.brackets.count U + keptLabels (s.labelCalls d) := by
  induction s generalizing d
  case operation op ho =>
    rw [leaves_of_isOperation ho, List.forall_mem_singleton] at h
    rw [ho.brackets_run h.left h.right, labelCalls_of_isOperation ho, keptLabels_nil, Nat.add_zero]
  case label body hi =>
    have h := Script.forall_mem_leaves.mp h
    rw [run_label_document, labelCalls]
    cases hr : (Script.run body .empty).result
    case error => simp [Document.label_document_of_error hr]
    case ok    =>
      have hb := Script.count_run (d := .empty) fun step hs d => hi step hs d <| h step hs
      have he : Document.empty.brackets.count U = 0 := rfl
      simp [Document.brackets_label_of_ok d hr, hb, he]
  case attempt step hi =>
    rw [run_attempt_document]
    exact hi d h

theorem Script.count_finish (s : Script) (d : Document)
    (h : ∀ op ∈ Script.leaves s, op.bracket? = none ∧ ¬op.clears) :
    (s.finish d).brackets.count U =
      d.brackets.count U + keptLabels ((s.course d).flatMap fun p => p.1.labelCalls p.2) := by
  induction s generalizing d
  case nil => rfl
  case cons step rest hi =>
    have ⟨hs, hr⟩ := List.forall_mem_append.mp h
    have ht := hi (step.run d).document hr
    rw [course, List.flatMap_cons, keptLabels_append, ←Nat.add_assoc, ←step.count_run d hs]
    exact ht

namespace Session

open Element

-- Wherever the brackets of labels come of labels only, none is closed before it is opened and each
-- is closed. On a document of which nothing is cleared there is a pair for each label that
-- succeeded in labels that all succeeded.
theorem brackets_balanced :
    (∀ (moves : List (String × Move)) (d : Document),
      (∀ m ∈ moves, ∀ op ∈ m.2.leaves, op.bracket? = none) →
      Reaches (·.bracket? = none) {} moves d →
        (∀ es, es <+: d.elements → (opcodes es).count "^XZ" ≤ (opcodes es).count "^XA") ∧
        (opcodes d.elements).count "^XZ" = (opcodes d.elements).count "^XA") ∧
    ∀ s : Script, (∀ op ∈ Script.leaves s, op.bracket? = none ∧ ¬op.clears) →
      (opcodes (s.finish .empty).elements).count "^XA" =
        keptLabels ((s.course .empty).flatMap fun p => p.1.labelCalls p.2) := by
  constructor
  · intro moves d hb hr
    have ⟨w, hw⟩ := hr.invariant Step.balanced_invariant (fun _ h => nomatch h) hb
    exact ⟨fun _ => count_le_count_of_dyckWord w hw, count_eq_count_of_dyckWord w hw⟩
  · intro s h
    have hc := s.count_finish .empty h
    have he : Document.empty.brackets.count U = 0 := rfl
    rwa [he, Nat.zero_add, Document.brackets, count_U_brackets] at hc

theorem brackets_balanced_in_bodies :
    let bad : Step := .emit (.labelLength 0)
    let body : Script :=
      [.label [.addRaw "^XZ"], .attempt (.label [.label [], bad]), .label [.label []]]
    let inner := (body.run .empty).document
    let s : Script := [.label body, .label (body ++ [bad]), .label []]
    opcodes inner.elements = ["^XA", "^XZ", "^XA", "^XA", "^XZ", "^XZ"] ∧
      (∀ es, es <+: inner.elements → (opcodes es).count "^XZ" ≤ (opcodes es).count "^XA") ∧
      (opcodes (s.finish .empty).elements).count "^XA" = 5 := by
  intro bad body inner s
  have ⟨balanced, counted⟩ := brackets_balanced
  have hr : Reaches (·.bracket? = none) {} [("a", .perform (.label (body ++ [bad])))] inner :=
    .during <| .inside <| .tail rfl <| .tail rfl <| .tail rfl .start
  have hb : ∀ op ∈ Script.leaves s, op.bracket? = none ∧ ¬op.clears := by
    simp [s, body, bad, Script.leaves, Step.leaves, Step.bracket?, Step.clears, Step.bare,
      Instruction.opcode, bracketOf]
  have hm : ∀ op ∈ Script.leaves (body ++ [bad]), op.bracket? = none := by
    simp [body, bad, Script.leaves, Step.leaves, Step.bracket?, Instruction.opcode, bracketOf]
  refine ⟨rfl, (balanced _ inner (by simpa [Move.leaves, Step.leaves] using hm) hr).left, ?_⟩
  exact counted s hb

end Session

end Zpl
