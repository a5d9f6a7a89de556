import Zpl.Proofs.Command.Message
import Zpl.Proofs.Script.Log

namespace Zpl

theorem Violation.Occurs.message_ne {v : Violation} (h : v.Occurs) :
    v.message ≠ Halt.emptyOpcode.message := by
  intro he
  have hl : (Violation.empty "command" "prefix").IsLegible := ⟨by decide, by decide, by decide⟩
  -- The text is that of an empty parameter, but of no command that there is.
  obtain rfl : v = .empty "command" "prefix" := Violation.eq_of_message_eq h.isLegible hl he
  have ⟨i, hi⟩ := h
  have ⟨_, _, _, hx⟩ := i.violation?_eq_some_iff.mp hi
  have ho : "command" = i.opcode := hx.command_eq
  cases i <;> simp [Instruction.opcode] at ho

namespace Halt

def Occurs : Halt → Prop
  | rejected v  => v.Occurs
  | emptyOpcode => True

theorem eq_of_message_eq {halt halt' : Halt} (h : halt.Occurs) (h' : halt'.Occurs)
    (he : halt.message = halt'.message) : halt = halt' := by
  cases halt <;> cases halt'
  case rejected.rejected       => rw [Violation.Occurs.eq_of_message_eq h h' he]
  case emptyOpcode.emptyOpcode => rfl
  case rejected.emptyOpcode    => exact absurd he <| Violation.Occurs.message_ne h
  case emptyOpcode.rejected    => exact absurd he.symm <| Violation.Occurs.message_ne h'

end Halt

namespace Event

def isRejection : Event → Bool
  | rejectedCommand .. | rejectedField _            => true
  | appendedCommand _ | appendedRaw _ | rendered .. => false

inductive Rejects : Event → Violation → Prop
  | command : Rejects (.rejectedCommand v.command v.message) v
  | field   : Rejects (.rejectedField v.message) v

def IsAccounted (e : Event) : Prop :=
  e.isRejection → ∃ v : Violation, v.Occurs ∧ e.Rejects v

theorem not_mem_map_appended {e : Event} (h : e.isRejection) (es : List Element) :
    e ∉ es.map appended := by
  intro he
  obtain ⟨element, _, rfl⟩ := List.mem_map.mp he
  cases element <;> contradiction

theorem isAccounted_of_mem_map {e : Event} {es : List Element} (he : e ∈ es.map appended) :
    e.IsAccounted :=
  fun h => absurd he <| not_mem_map_appended h es

end Event

def Report.IsAccounted (r : Report α) : Prop :=
  ∀ e ∈ r.events, e.IsAccounted

namespace Report.IsAccounted

theorem of_events_eq_nil {r : Report α} (h : r.events = []) : r.IsAccounted := by
  simp [IsAccounted, h]

theorem map {r : Report α} (h : r.IsAccounted) (f : α → β) : (r.map f).IsAccounted :=
  h

theorem passRefusal {r : Report α} (h : r.IsAccounted) (a : α) : (r.passRefusal a).IsAccounted := by
  rwa [IsAccounted, passRefusal_events]

theorem andThen {r : Report α} {f : Document → Report β} (h : r.IsAccounted)
    (hf : (f r.document).IsAccounted) : (r.andThen f).IsAccounted := by
  cases hr : r.result
  case error => rwa [andThen_of_error hr]
  case ok    =>
    rw [andThen_of_ok hr]
    exact List.forall_mem_append.mpr ⟨h, hf⟩

end Report.IsAccounted

namespace Document

variable (d : Document)

theorem appendUnless_isAccounted {v? : Option Violation} {log : Violation → List Event}
    (es : List Element) (h : ∀ v, v? = some v → ∀ e ∈ log v, e.IsAccounted) :
    (d.appendUnless v? log es).IsAccounted := by
  cases v?
  case none   => exact fun _ => Event.isAccounted_of_mem_map
  case some v => exact h v rfl

theorem addRaw_isAccounted (text : String) : (d.addRaw text).IsAccounted := by
  rw [addRaw_eq]
  exact d.appendUnless_isAccounted _ fun _ _ => List.forall_mem_nil _

theorem add_isAccounted (c : Command) : (d.add c).IsAccounted := by
  rw [add_eq]
  exact d.appendUnless_isAccounted _ fun _ _ => List.forall_mem_nil _

theorem emit_isAccounted (i : Instruction) : (d.emit i).IsAccounted := by
  rw [emit_eq]
  apply d.appendUnless_isAccounted
  intro v hv
  rw [List.forall_mem_singleton]
  exact fun _ => ⟨v, ⟨i, hv⟩, .command⟩

theorem addFieldOf_isAccounted (is : List Instruction) : (d.addFieldOf is).IsAccounted := by
  rw [addFieldOf_eq]
  apply d.appendUnless_isAccounted
  intro v hv
  have ⟨i, _, hi⟩ := List.exists_of_findSome?_eq_some hv
  rw [List.forall_mem_singleton]
  exact fun _ => ⟨v, ⟨i, hi⟩, .field⟩

theorem label_isAccounted {body : Document → Report Unit} (h : (body empty).IsAccounted) :
    (d.label body).IsAccounted := by
  rw [label]
  split
  case h_1 => exact h
  case h_2 => exact List.forall_mem_append.mpr ⟨h, fun _ => Event.isAccounted_of_mem_map⟩

theorem renderWith_isAccounted (separator : Separator) : (d.renderWith separator).IsAccounted := by
  rw [renderWith]
  split
  case h_1 => exact .of_events_eq_nil rfl
  case h_2 =>
    rw [Report.IsAccounted, List.forall_mem_singleton]
    intro
    contradiction

theorem addFieldOf_result_eq {d d' : Document} {is is' : List Instruction}
    (h : (d.addFieldOf is).events = (d'.addFieldOf is').events) :
    (d.addFieldOf is).result = (d'.addFieldOf is').result := by
  cases hv : is.findSome? (·.violation?) <;> cases hw : is'.findSome? (·.violation?)
  all_goals simp only [addFieldOf, hv, hw] at h ⊢
  case none.none => rfl
  case some.some v w =>
    have ⟨i, _, hi⟩ := List.exists_of_findSome?_eq_some hv
    have ⟨j, _, hj⟩ := List.exists_of_findSome?_eq_some hw
    have hm : v.message = w.message := by simpa using h
    rw [Violation.Occurs.eq_of_message_eq ⟨i, hi⟩ ⟨j, hj⟩ hm]
  -- Of the two, one tells of a refusal and the other of elements.
  case none.some w =>
    exact absurd (h ▸ List.mem_singleton_self _) <| Event.not_mem_map_appended rfl _
  case some.none v =>
    exact absurd (h ▸ List.mem_singleton_self _) <| Event.not_mem_map_appended rfl _

end Document

theorem Step.IsAppending.run_isAccounted {s : Step} (h : s.IsAppending) (d : Document) :
    (s.run d).IsAccounted := by
  match s with
  | .addRaw text => exact (d.addRaw_isAccounted text).map _
  | .add c => exact (d.add_isAccounted c).map _
  | .emit i =>
    rw [run_emit]
    exact (d.emit_isAccounted i).map _
  | .addField .. | .addFontField .. => exact (d.addFieldOf_isAccounted _).map _

theorem Step.run_isAccounted_of_shows {s : Step} (ho : s.IsOperation) (h : s.shows) (d : Document) :
    (s.run d).IsAccounted := by
  obtain ⟨separator, hr⟩ | ⟨index, hr⟩ | ⟨a, hr⟩ := ho.run_of_shows h d
  all_goals rw [hr]
  · exact (d.renderWith_isAccounted separator).map _
  · exact .of_events_eq_nil <| d.elementText_events index
  · exact .of_events_eq_nil rfl

theorem Script.run_isAccounted {s : Script} (h : ∀ step ∈ s, ∀ d, (step.run d).IsAccounted)
    (d : Document) : (s.run d).IsAccounted := by
  induction s generalizing d
  case nil => exact .of_events_eq_nil rfl
  case cons step rest hi =>
    have ⟨hs, hr⟩ := List.forall_mem_cons.mp h
    exact (hs d).andThen <| hi hr _

theorem Step.run_isAccounted (s : Step) (d : Document) : (s.run d).IsAccounted := by
  induction s generalizing d
  case operation op ho =>
    induction op, ho using IsOperation.cases
    case appends ha  => exact ha.run_isAccounted d
    case shows ho hs => exact run_isAccounted_of_shows ho hs d
    case clear       => exact .of_events_eq_nil rfl
    case fail        => exact .of_events_eq_nil rfl
  case label body hi   => exact (d.label_isAccounted <| Script.run_isAccounted hi .empty).map _
  case attempt step hi =>
    rw [run]
    exact (hi d).passRefusal _

def Step.IsField : Step → Prop
  | addField .. | addFontField .. => True
  | _                             => False

theorem Step.run_eq_addFieldOf {f : Step} (h : f.IsField) :
    ∃ is, ∀ d, f.run d = (d.addFieldOf is).acknowledged := by
  cases f
  case addField | addFontField => exact ⟨_, fun _ => rfl⟩
  all_goals contradiction

theorem Step.run_result_eq_of_isField {f f' : Step} (h : f.IsField) (h' : f'.IsField)
    (he : (f.run d).events = (f'.run d').events) : (f.run d).result = (f'.run d').result := by
  obtain ⟨is, hf⟩ := run_eq_addFieldOf h
  obtain ⟨is', hf'⟩ := run_eq_addFieldOf h'
  rw [hf, hf'] at he ⊢
  exact congrArg (Except.map fun _ => Answer.done) <| Document.addFieldOf_result_eq he

namespace Violation

-- The text of a refusal tells for what an instruction was refused, also in the log of any run, where
-- two fields that are told of alike have come to the same.
theorem message_tells_refusal :
    (∀ (i j : Instruction) (v w : Violation), i.violation? = some v → j.violation? = some w →
      v.message = w.message →
      v = w ∧ i.opcode = j.opcode ∧ ∃ q x, i.FirstOutside q x ∧ j.FirstOutside q x) ∧
    (∀ (c c' : Char) (b t r b' t' r' : Int) (data data' : String),
      c ∉ ['A', 'B', 'C'] → c' ∉ ['A', 'B', 'C'] →
      ((Instruction.graphicField c b t r data).violation?.map message =
        (Instruction.graphicField c' b' t' r' data').violation?.map message ↔ c = c')) ∧
    Function.Injective Text.quoted ∧
    (∀ (s : Step) (d : Document), ∀ e ∈ (s.run d).events, e.isRejection →
      ∃ v : Violation, v.Occurs ∧ e.Rejects v ∧
        ∀ w : Violation, w.Occurs → w.message = v.message → w = v) ∧
    ∀ (f f' : Step) (d d' : Document), f.IsField → f'.IsField →
      (f.run d).events = (f'.run d').events → (f.run d).result = (f'.run d').result := by
  refine ⟨fun i j v w hi hj h => ?refusal,
    fun _ _ _ _ _ _ _ _ _ _ hc hc' => Instruction.format_message_eq_iff hc hc' _ _ _ _ _ _ _ _,
    Text.quoted_injective, fun s d e he hr => ?log, fun _ _ _ _ => Step.run_result_eq_of_isField⟩
  case refusal =>
    obtain rfl : v = w := Occurs.eq_of_message_eq ⟨i, hi⟩ ⟨j, hj⟩ h
    exact ⟨rfl, Instruction.exists_firstOutside hi hj⟩
  case log =>
    have ⟨v, hv, hev⟩ := s.run_isAccounted d e he hr
    exact ⟨v, hv, hev, fun w hw h => hw.eq_of_message_eq hv h⟩

theorem message_tells_refusal_of_escapes :
    let origin  := Instruction.fieldOrigin 40000 0 none
    let origin' := Instruction.fieldOrigin 40000 50000 (some .right)
    let graphic (c : Char) := Instruction.graphicField c 0 1 1 ""
    let field     := Step.addField 40000 0 "a"
    let fontField := Step.addFontField 40000 50000 .a 0 0 "b"
    let label     := Step.label [.attempt field]
    let v := outOfRange "^FO" "x" 40000 0 32000
    (∃ q x, origin.FirstOutside q x ∧ origin'.FirstOutside q x) ∧
      (graphic '"').violation?.map message ≠ (graphic '\\').violation?.map message ∧
      (graphic '\u0301').violation?.map message ≠ (graphic '\u0308').violation?.map message ∧
      .rejectedField v.message ∈ (label.run .empty).events ∧
      (∃ w : Violation, w.Occurs ∧ (Event.rejectedField v.message).Rejects w) ∧
      (field.run .empty).result = (fontField.run ⟨[.raw "c"]⟩).result := by
  intro origin origin' graphic field fontField label v
  obtain ⟨refusal, format, _, log, fields⟩ := message_tells_refusal
  have ⟨_, _, outside⟩ := refusal origin origin' v v rfl rfl rfl
  have apart (c c' : Char) (hc : c ∉ ['A', 'B', 'C']) (hc' : c' ∉ ['A', 'B', 'C']) (h : c ≠ c') :
      (graphic c).violation?.map message ≠ (graphic c').violation?.map message :=
    mt (format c c' _ _ _ _ _ _ _ _ hc hc').mp h
  have told : .rejectedField v.message ∈ (label.run .empty).events := by decide
  have ⟨w, hw, he, _⟩ := log label .empty _ told rfl
  exact ⟨outside, apart _ _ (by decide) (by decide) (by decide),
    apart _ _ (by decide) (by decide) (by decide), told, ⟨w, hw, he⟩,
    fields field fontField _ _ trivial trivial rfl⟩

end Violation
end Zpl
