import Mathlib.Algebra.GroupWithZero.Nat
import Mathlib.Data.List.Perm.Basic
import Zpl.Proofs.Script.Label
import Zpl.Proofs.Script.Reaches

namespace Zpl

theorem Text.utf8ByteSize_eq_sum (s : String) :
    s.utf8ByteSize = (s.toList.map Char.utf8Size).sum := by
  induction s using String.push_induction <;> simp_all

namespace Event

-- A command goes by its opcode, a text by its length in bytes, of which a character can have four.
inductive Describes : Event → Element → Prop
  | command : Describes (.appendedCommand c.opcode) (.command c)
  | raw     : Describes (.appendedRaw (text.toList.map Char.utf8Size).sum) (.raw text)

theorem appended_describes (e : Element) : (appended e).Describes e := by
  cases e
  case command => exact .command
  case raw text =>
    rw [appended, Text.utf8ByteSize_eq_sum]
    exact .raw

theorem forall₂_describes (es : List Element) : List.Forall₂ Describes (es.map appended) es :=
  List.forall₂_map_left_iff.mpr <| List.forall₂_same.mpr fun e _ => appended_describes e

def isAppended : Event → Bool
  | appendedCommand _ | appendedRaw _ => true
  | _                                 => false

@[simp]
theorem filter_isAppended_map (es : List Element) :
    (es.map appended).filter isAppended = es.map appended := by
  rw [List.filter_eq_self, List.forall_mem_map]
  intro e _
  cases e <;> rfl

end Event

namespace Report

-- The operation appends the elements, of which it tells the log in turn and last.
structure Appends (d : Document) (es : List Element) (before : List Event) (r : Report α) :
    Prop where
  elements : r.document.elements = d.elements ++ es
  events   : r.events = before ++ es.map .appended

theorem Appends.map {r : Report α} (h : r.Appends d es before) (f : α → β) :
    (r.map f).Appends d es before :=
  ⟨h.elements, h.events⟩

theorem Appends.passRefusal {r : Report α} (h : r.Appends d es before) (a : α) :
    (r.passRefusal a).Appends d es before :=
  ⟨r.passRefusal_document a ▸ h.elements, r.passRefusal_events a ▸ h.events⟩

end Report

namespace Document

variable {d : Document} {v? : Option Violation} {log : Violation → List Event} {es : List Element}

theorem appendUnless_appends (h : (d.appendUnless v? log es).result = .ok ()) :
    (d.appendUnless v? log es).Appends d es [] := by
  cases v?
  case none => exact ⟨rfl, rfl⟩
  case some => contradiction

theorem appendUnless_events_of_error (h : (d.appendUnless v? log es).result = .error halt) :
    ∃ v, halt = .rejected v ∧ (d.appendUnless v? log es).events = log v := by
  cases v?
  case none   => contradiction
  case some v => exact ⟨v, (Except.error.inj h).symm, rfl⟩

theorem filter_isAppended_renderWith (d : Document) (separator : Separator) :
    (d.renderWith separator).events.filter Event.isAppended = [] := by
  rw [renderWith]
  split <;> rfl

theorem elementText_events (d : Document) (index : Nat) : (d.elementText index).events = [] := by
  rw [elementText]
  split
  case h_1 => rfl
  case h_2 => split <;> rfl

variable {body : Document → Report Unit}

theorem label_appends (d : Document) (h : (body empty).result = .ok ()) :
    (d.label body).Appends d (bracketed (body empty).document.elements) (body empty).events where
  elements := label_elements_of_ok h
  events   := by simp [label, h, appendAll]

theorem label_events_of_error (h : (d.label body).result = .error halt) :
    (d.label body).events = (body empty).events := by
  rw [label_result] at h
  simp [label, h]

end Document

namespace Step

def bodyEvents (s : Step) : List Event :=
  match s.bare with
  | label body => (Script.run body .empty).events
  | _          => []

variable {s : Step} {d : Document}

theorem IsAppending.run_appends (h : s.IsAppending) (hr : (s.run d).result = .ok a) :
    (s.run d).Appends d s.elements [] := by
  have ⟨v?, log, he⟩ := run_eq_appendUnless h
  rw [he] at hr ⊢
  have ⟨_, hr⟩ := Report.exists_result_of_map hr
  exact (Document.appendUnless_appends hr).map _

theorem bodyEvents_of_isOperation (h : s.IsOperation) : s.bodyEvents = [] := by
  rw [bodyEvents, bare_of_isOperation h]
  cases s
  case label => contradiction
  all_goals rfl

theorem run_appends {s : Step} (h : s.OnlyAppends) (hr : (s.bare.run d).result = .ok a) :
    ∃ es, (s.run d).Appends d es s.bodyEvents := by
  induction s
  case operation op ho =>
    rw [bodyEvents_of_isOperation ho]
    rw [bare_of_isOperation ho] at hr
    induction op, ho using IsOperation.cases
    case appends ha => exact ⟨_, ha.run_appends hr⟩
    case shows hs   => exact absurd hs h.not_shows
    case clear      => exact absurd rfl h.not_clears
    case fail       => contradiction
  case label body _ =>
    have ⟨_, hl⟩ := Report.exists_result_of_map hr
    exact ⟨_, (d.label_appends <| Document.result_of_label hl).map _⟩
  case attempt step hi =>
    have ⟨es, hs⟩ := hi h.of_attempt hr
    rw [run]
    exact ⟨es, hs.passRefusal _⟩

theorem filter_isAppended_of_shows (h : s.shows) (d : Document) :
    (s.run d).events.filter Event.isAppended = [] := by
  induction s
  case operation op ho =>
    obtain ⟨separator, hr⟩ | ⟨index, hr⟩ | ⟨a, hr⟩ := ho.run_of_shows h d
    all_goals rw [hr]
    · exact d.filter_isAppended_renderWith separator
    · rw [Document.elementText_events, List.filter_nil]
    · rfl
  case label           => contradiction
  case attempt step hi =>
    rw [run, Report.passRefusal_events]
    exact hi h

end Step

structure Placement where
  element : Element
  labels  : Nat

namespace Placement

def outside (es : List Element) : List Placement :=
  es.map (⟨·, 0⟩)

def deeper (p : Placement) : Placement :=
  { p with labels := p.labels + 1 }

-- Elements in one more label. Its brackets count with what is around it.
def within (ps : List Placement) : List Placement :=
  outside [.ofInstruction .startFormat] ++ ps.map deeper ++ outside [.ofInstruction .endFormat]

-- What the log is told of an element: once that it is appended, and again for each label.
def events (p : Placement) : List Event :=
  List.replicate (p.labels + 1) (.appended p.element)

variable (es : List Element) (ps : List Placement)

@[simp]
theorem map_element_outside : (outside es).map element = es := by
  simp [outside, Function.comp_def]

@[simp]
theorem flatMap_events_outside : (outside es).flatMap events = es.map .appended := by
  simp [outside, events, List.flatMap_map, ←List.map_eq_flatMap]

@[simp]
theorem map_element_within : (within ps).map element = Document.bracketed (ps.map element) := by
  simp [within, Document.bracketed, Function.comp_def, deeper]

theorem events_deeper (p : Placement) : p.deeper.events = .appended p.element :: p.events :=
  rfl

theorem perm_events_within :
    (ps.flatMap events ++ (Document.bracketed (ps.map element)).map Event.appended).Perm
      ((within ps).flatMap events) := by
  let first := Event.appended (.ofInstruction .startFormat)
  let last := Event.appended (.ofInstruction .endFormat)
  let again := ps.map fun p => Event.appended p.element
  -- The log tells of the elements anew only behind all that the body told, hence the permutation.
  have hd : (ps.flatMap events ++ again).Perm ((ps.map deeper).flatMap events) := by
    refine List.perm_append_comm.trans ?_
    simpa [List.flatMap_map, events_deeper] using ps.map_append_flatMap_perm _ events
  calc ps.flatMap events ++ (Document.bracketed (ps.map element)).map Event.appended
      = ps.flatMap events ++ first :: (again ++ [last]) := by
        simp [Document.bracketed, Function.comp_def, first, last, again]
    List.Perm _ (first :: (ps.flatMap events ++ (again ++ [last]))) := List.perm_middle
    List.Perm _ (first :: ((ps.map deeper).flatMap events ++ [last])) := by
        rw [←List.append_assoc]
        exact (hd.append_right _).cons _
    _ = (within ps).flatMap events := by
        simp [within, first, last]

end Placement

mutual

-- The step succeeds, and so does all that is performed in the bodies of its labels. An attempt
-- does not count as a success when it passes over a refusal.
def Step.Succeeds : Step → Document → Prop
  | .label body, _   => Script.Succeeds body .empty
  | .attempt step, d => step.Succeeds d
  | step, d          => ∃ a, (step.run d).result = .ok a

def Script.Succeeds : Script → Document → Prop
  | [], _           => True
  | step :: rest, d => step.Succeeds d ∧ Script.Succeeds rest (step.run d).document

end

mutual

def Step.placed : Step → List Placement
  | .label body   => Placement.within (Script.placed body)
  | .attempt step => step.placed
  | step          => Placement.outside step.elements

def Script.placed : Script → List Placement
  | []           => []
  | step :: rest => step.placed ++ Script.placed rest

end

namespace Report

-- The operation succeeds and appends what is placed. The log is told of each element once for its
-- place and once for each label around it.
structure Tells (d : Document) (ps : List Placement) (r : Report α) : Prop where
  succeeds : ∃ a, r.result = .ok a
  elements : r.document.elements = d.elements ++ ps.map Placement.element
  events   : (r.events.filter Event.isAppended).Perm (ps.flatMap Placement.events)

namespace Tells

theorem map {r : Report α} (h : r.Tells d ps) (f : α → β) : (r.map f).Tells d ps where
  succeeds := have ⟨a, ha⟩ := h.succeeds; ⟨f a, by simp [Report.map, ha, Except.map]⟩
  elements := h.elements
  events   := h.events

theorem passRefusal {r : Report α} (h : r.Tells d ps) (a : α) : (r.passRefusal a).Tells d ps := by
  have ⟨b, hb⟩ := h.succeeds
  have hr : r.passRefusal a = r := by simp [Report.passRefusal, hb]
  rwa [hr]

theorem andThen {r : Report α} {f : Document → Report β} (h : r.Tells d ps)
    (hf : (f r.document).Tells r.document qs) : (r.andThen f).Tells d (ps ++ qs) := by
  have ⟨a, ha⟩ := h.succeeds
  rw [Report.andThen_of_ok ha]
  refine ⟨hf.succeeds, ?elements, ?events⟩
  case elements => simp [hf.elements, h.elements]
  case events =>
    rw [List.filter_append, List.flatMap_append]
    exact h.events.append hf.events

theorem label {body : Document → Report Unit} (h : (body .empty).Tells .empty ps) (d : Document) :
    (d.label body).Tells d (Placement.within ps) := by
  have ⟨_, hb⟩ := h.succeeds
  have ha := d.label_appends hb
  have he : (body .empty).document.elements = ps.map Placement.element := h.elements
  refine ⟨⟨_, (d.label_result body).trans hb⟩, ?elements, ?events⟩
  case elements => rw [ha.elements, he, Placement.map_element_within]
  case events =>
    rw [ha.events, he, List.filter_append, Event.filter_isAppended_map]
    exact (h.events.append_right _).trans <| Placement.perm_events_within ps

theorem of_appends {r : Report α} (hr : r.result = .ok a) (h : r.Appends d es []) :
    r.Tells d (Placement.outside es) where
  succeeds := ⟨a, hr⟩
  elements := by rw [h.elements, Placement.map_element_outside]
  events   := by
    rw [h.events, List.nil_append, Event.filter_isAppended_map, Placement.flatMap_events_outside]

end Tells
end Report

theorem Step.run_tells_of_shows {s : Step} (h : s.shows) (hr : (s.run d).result = .ok a) :
    (s.run d).Tells d [] where
  succeeds := ⟨a, hr⟩
  elements := by simp [run_document_of_shows h]
  events   := by rw [filter_isAppended_of_shows h, List.flatMap_nil]

namespace Step

variable {s : Step}

theorem succeeds_iff_of_isOperation (h : s.IsOperation) :
    s.Succeeds d ↔ ∃ a, (s.run d).result = .ok a := by
  cases s
  case label | attempt => contradiction
  all_goals rfl

theorem placed_of_isOperation (h : s.IsOperation) : s.placed = Placement.outside s.elements := by
  cases s
  case label | attempt => contradiction
  all_goals rfl

theorem elements_of_shows (ho : s.IsOperation) (h : s.shows) : s.elements = [] := by
  cases s
  all_goals trivial

theorem IsOperation.run_tells (ho : s.IsOperation) (h : s.Succeeds d) (hc : ¬s.clears) :
    (s.run d).Tells d s.placed := by
  have ⟨_, hr⟩ := (succeeds_iff_of_isOperation ho).mp h
  rw [placed_of_isOperation ho]
  induction s, ho using IsOperation.cases
  case appends ha => exact .of_appends hr <| ha.run_appends hr
  case shows s ho hs =>
    rw [elements_of_shows ho hs]
    exact run_tells_of_shows hs hr
  case clear => exact absurd rfl hc
  case fail  => contradiction

end Step

-- Each body runs on an empty document, so nothing is assumed of the one that its label is made on.
theorem Script.run_tells {s : Script} {d : Document}
    (hs : ∀ step ∈ s, ∀ d, step.Succeeds d → (step.run d).Tells d step.placed)
    (h : s.Succeeds d) : (s.run d).Tells d (Script.placed s) := by
  induction s generalizing d
  case nil => exact ⟨⟨(), rfl⟩, (List.append_nil _).symm, .nil⟩
  case cons step rest hi =>
    have ⟨hstep, hrest⟩ := List.forall_mem_cons.mp hs
    exact (hstep d h.left).andThen <| hi hrest h.right

theorem Step.run_tells (s : Step) (h : s.Succeeds d) (hc : ∀ op ∈ s.leaves, ¬op.clears) :
    (s.run d).Tells d s.placed := by
  induction s generalizing d
  case operation op ho =>
    rw [leaves_of_isOperation ho, List.forall_mem_singleton] at hc
    exact ho.run_tells h hc
  case label body hi =>
    have hc := Script.forall_mem_leaves.mp hc
    have hb : (Script.run body .empty).Tells .empty (Script.placed body) :=
      Script.run_tells (fun step hs _ h => hi step hs h <| hc step hs) h
    exact (hb.label d).map _
  case attempt step hi =>
    rw [run]
    exact (hi h hc).passRefusal _

namespace Script

def log (s : Script) (d : Document) : List Event :=
  (s.course d).flatMap fun p => (p.1.run p.2).events

theorem run_eq_of_succeeds {s : Script} (h : s.Succeeds d) (hc : ∀ op ∈ leaves s, ¬op.clears) :
    s.run d = ⟨s.finish d, s.log d, .ok ()⟩ := by
  induction s generalizing d
  case nil => rfl
  case cons step rest hi =>
    have ⟨hs, hr⟩ := List.forall_mem_append.mp hc
    have ⟨_, ha⟩ := (step.run_tells h.left hs).succeeds
    rw [run, Report.andThen_of_ok ha, hi h.right hr]
    rfl

end Script

end Zpl
