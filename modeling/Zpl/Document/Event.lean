import Zpl.Document.Basic

namespace Zpl

inductive Level where
  | trace
  | debug
  deriving DecidableEq

def Level.name : Level → String
  | trace => "TRACE"
  | debug => "DEBUG"

inductive Event where
  | appendedCommand (opcode : String)
  | appendedRaw (bytes : Nat)
  | rejectedCommand (command error : String)
  | rejectedField (error : String)
  | rendered (elements bytes : Nat)
  deriving DecidableEq

namespace Event

def appended : Element → Event
  | .command c => appendedCommand c.opcode
  | .raw text  => appendedRaw text.utf8ByteSize

def level : Event → Level
  | appendedCommand _ | appendedRaw _                  => .trace
  | rejectedCommand .. | rejectedField _ | rendered .. => .debug

def message : Event → String
  | appendedCommand _  => "append command"
  | appendedRaw _      => "append raw literal"
  | rejectedCommand .. => "rejected command"
  | rejectedField _    => "rejected field"
  | rendered ..        => "rendered ZPL document"

def fields : Event → List (String × Json)
  | appendedCommand opcode        => [("prefix", .str opcode)]
  | appendedRaw bytes             => [("len", .int bytes)]
  | rejectedCommand command error => [("command", .str command), ("error", .str error)]
  | rejectedField error           => [("error", .str error)]
  | rendered elements bytes       => [("elements", .int elements), ("bytes", .int bytes)]

def toJson (e : Event) : Json :=
  .obj (("level", .str e.level.name) :: ("message", .str e.message) :: e.fields)

end Event
end Zpl
