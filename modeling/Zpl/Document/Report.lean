import Zpl.Document.Event

namespace Zpl

-- Why an operation gives no answer: a refusal, which a caller can pass over, or a command that
-- cannot be written.
inductive Halt where
  | rejected (violation : Violation)
  | emptyOpcode
  deriving DecidableEq

def Halt.message : Halt → String
  | rejected v  => v.message
  | emptyOpcode => "command prefix must not be empty"

@[ext]
structure Report (α : Type) where
  document : Document
  events   : List Event
  result   : Except Halt α

namespace Report

def done (d : Document) (a : α) : Report α :=
  ⟨d, [], .ok a⟩

def map (f : α → β) (r : Report α) : Report β :=
  ⟨r.document, r.events, r.result.map f⟩

def andThen (r : Report α) (f : Document → Report β) : Report β :=
  match r.result with
  | .error halt => ⟨r.document, r.events, .error halt⟩
  | .ok _ =>
    let next := f r.document
    ⟨next.document, r.events ++ next.events, next.result⟩

-- Passes over a refusal. What cannot be written halts all the same.
def passRefusal (r : Report α) (a : α) : Report α :=
  match r.result with
  | .error (.rejected _) => ⟨r.document, r.events, .ok a⟩
  | _                    => r

end Report
end Zpl
