import Zpl.Proofs.Document.Accepted
import Zpl.Proofs.Script.Operation

namespace Zpl

mutual

def Step.commands : Step → List Command
  | .add c        => [c]
  | .label body   => Script.commands body
  | .attempt step => step.commands
  | _             => []

def Script.commands : Script → List Command
  | []           => []
  | step :: rest => step.commands ++ Script.commands rest

end

theorem Script.commands_eq_flatMap (s : Script) : Script.commands s = s.flatMap Step.commands := by
  induction s
  case nil             => rfl
  case cons step rest hi => rw [commands, hi, List.flatMap_cons]

theorem Script.forall_mem_commands {s : Script} {p : Command → Prop} :
    (∀ c ∈ Script.commands s, p c) ↔ ∀ step ∈ s, ∀ c ∈ step.commands, p c := by
  rw [commands_eq_flatMap, List.forall_mem_flatMap]

variable {commands : List Command}

theorem Step.IsAppending.outcome {s : Step} (h : s.IsAppending) (hc : ∀ c ∈ s.commands, c ∈ commands)
    (d : Document) : (s.run d).Outcome (·.Accepted commands) d := by
  match s with
  | .addRaw text => exact (d.addRaw_outcome <| .raw text).map
  | .add c => exact (d.add_outcome <| .given <| hc c List.mem_cons_self).map
  | .emit i =>
    rw [run_emit]
    exact (d.emit_outcome (fun _ => .made) i).map
  | .addField .. | .addFontField .. => exact (d.addFieldOf_outcome (fun _ => .made) _).map

theorem Step.run_outcome (s : Step) (d : Document) (hc : ∀ c ∈ s.commands, c ∈ commands) :
    (s.run d).Outcome (·.Accepted commands) d := by
  induction s generalizing d
  case operation op ho =>
    induction op, ho using IsOperation.cases
    case appends ha  => exact ha.outcome hc d
    case shows hs    => exact .of_document_eq <| run_document_of_shows hs
    case clear       => exact .cleared
    case fail        => exact .of_document_eq rfl
  case label body hi =>
    have hb : (Script.run body .empty).document.Accepted commands := by
      refine Script.run_induction (fun step hs d hd => ?_) Document.empty_accepted
      exact (hi step hs d <| Script.forall_mem_commands.mp hc step hs).forall_mem hd
    exact (d.label_outcome (fun _ => .made) hb).map
  case attempt step hi =>
    rw [run]
    exact (hi d hc).passRefusal _

theorem Step.run_accepted (s : Step) (d : Document) (hc : ∀ c ∈ s.commands, c ∈ commands)
    (h : d.Accepted commands) : (s.run d).document.Accepted commands :=
  (s.run_outcome d hc).forall_mem h

theorem Step.run_document_of_error {s : Step} {d : Document} (h : (s.run d).result = .error halt) :
    (s.run d).document = d :=
  (s.run_outcome d fun _ hc => hc).document_of_error h

end Zpl
