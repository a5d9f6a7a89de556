import Zpl.Command.Domain

namespace Zpl

inductive Command where
  | builtin (instruction : Instruction)
  | custom (opcode : String) (slots : List Slot)
  deriving DecidableEq

namespace Command

def opcode : Command → String
  | builtin i       => i.opcode
  | custom opcode _ => opcode

def slots : Command → List Slot
  | builtin i      => i.slots
  | custom _ slots => slots

def violation? : Command → Option Violation
  | builtin i  => i.violation?
  | custom _ _ => none

def values (c : Command) : List Value :=
  c.slots.filterMap (·.value)

-- The first value follows the opcode at once.
def writeValues (out : String) : List Value → String
  | []      => out
  | v :: vs => vs.foldl (fun out v => out ++ "," ++ v.wire) (out ++ v.wire)

-- Appends the wire text. A command without an opcode cannot be written.
def writeTo? (out : String) (c : Command) : Option String :=
  if c.opcode = "" then none else some (writeValues (out ++ c.opcode) c.values)

def text? (c : Command) : Option String :=
  c.writeTo? ""

end Command
end Zpl
