import Zpl.Command.Basic

namespace Zpl

inductive Element where
  | command (command : Command)
  | raw (text : String)
  deriving DecidableEq

@[ext]
structure Document where
  elements : List Element := []
  deriving DecidableEq

namespace Document

def empty : Document := {}

def length (d : Document) : Nat :=
  d.elements.length

def isEmpty (d : Document) : Bool :=
  d.elements.isEmpty

end Document

def Element.ofInstruction (i : Instruction) : Element :=
  .command (.builtin i)

end Zpl
