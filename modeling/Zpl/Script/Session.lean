import Zpl.Script.Run

namespace Zpl

structure Session where
  documents : List (String × Document) := []
  commands  : List (String × Command) := []

inductive Move where
  | renew
  | copyTo (name : String)
  | share (id : String) (command : Command)
  | perform (step : Step)

-- What a move shows: its answer, what the log was told, and the document's length and the texts of
-- its new elements. An element that cannot be written has none.
structure Reply where
  result : Except Halt Answer
  events : List Event
  length : Nat
  added  : List (Option String)

namespace Session

def document (s : Session) (name : String) : Document :=
  (s.documents.lookup name).getD .empty

def command? (s : Session) (id : String) : Option Command :=
  s.commands.lookup id

def store (s : Session) (name : String) (d : Document) : Session :=
  { s with documents := (name, d) :: s.documents.filter (·.1 ≠ name) }

def keep (s : Session) (id : String) (c : Command) : Session :=
  { s with commands := (id, c) :: s.commands.filter (·.1 ≠ id) }

-- The report on the move's document, and the session without that document's change.
def move (s : Session) (d : Document) : Move → Session × Report Answer
  | .renew       => (s, .done .empty .done)
  | .copyTo name => (s.store name d, .done d .done)
  | .share id c  =>
    match c.violation? with
    | some v => (s, ⟨d, [], .error (.rejected v)⟩)
    | none   => (s.keep id c, .done d .done)
  | .perform step => (s, step.run d)

def play (s : Session) (name : String) (m : Move) : Session × Reply :=
  let before := s.document name
  let (s, report) := s.move before m
  let after := report.document
  (s.store name after,
    { result := report.result
      events := report.events
      length := after.length
      added  := (after.elements.drop before.length).map Element.text? })

end Session
end Zpl
