import Zpl.OptionSet.Basic

namespace Zpl

inductive Font where
  | a | b | c | d | e | f | g | h | scalable | p | q | r | s | t | u | v
  deriving DecidableEq

namespace Font

def name : Font → String
  | a        => "a"
  | b        => "b"
  | c        => "c"
  | d        => "d"
  | e        => "e"
  | f        => "f"
  | g        => "g"
  | h        => "h"
  | scalable => "scalable"
  | p        => "p"
  | q        => "q"
  | r        => "r"
  | s        => "s"
  | t        => "t"
  | u        => "u"
  | v        => "v"

def code : Font → String
  | a        => "A"
  | b        => "B"
  | c        => "C"
  | d        => "D"
  | e        => "E"
  | f        => "F"
  | g        => "G"
  | h        => "H"
  | scalable => "0"
  | p        => "P"
  | q        => "Q"
  | r        => "R"
  | s        => "S"
  | t        => "T"
  | u        => "U"
  | v        => "V"

instance : OptionSet Font where
  all := [.a, .b, .c, .d, .e, .f, .g, .h, .scalable, .p, .q, .r, .s, .t, .u, .v]
  mem_all x := by cases x <;> simp
  name := name
  code := code
  nodup_codes := by decide

end Font

end Zpl
