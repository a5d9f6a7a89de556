import Zpl.Proofs.Command.Registry
import Zpl.Proofs.Document.Outcome

namespace Zpl

-- Elements that operations append when the given commands are those that were made elsewhere.
inductive Element.Accepted (commands : List Command) : Element → Prop
  | raw (text : String) : Accepted commands (.raw text)
  | made {i : Instruction} : i.violation? = none → Accepted commands (.ofInstruction i)
  | given {c : Command} : c ∈ commands → c.violation? = none → Accepted commands (.command c)

def Document.Accepted (commands : List Command) (d : Document) : Prop :=
  ∀ e ∈ d.elements, e.Accepted commands

theorem Document.empty_accepted : empty.Accepted commands :=
  fun _ h => nomatch h

namespace Element.Accepted

theorem conforms {i : Instruction} (h : (ofInstruction i).Accepted commands) : i.Conforms := by
  rw [←Instruction.violation?_eq_none_iff_conforms]
  cases h
  case made h    => exact h
  case given _ h => exact h

theorem mem_of_custom (h : (command (.custom opcode slots)).Accepted commands) :
    .custom opcode slots ∈ commands := by
  cases h
  case given h _ => exact h

end Element.Accepted
end Zpl
