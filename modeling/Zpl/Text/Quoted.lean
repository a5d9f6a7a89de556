import Zpl.Unicode.NonGraphic
import Zpl.Unicode.DefaultIgnorable
import Zpl.Unicode.CombiningMark

namespace Zpl.Text

def isPlain (c : Char) : Bool :=
  Unicode.isGraphic c && !Unicode.isDefaultIgnorable c && !Unicode.isCombiningMark c

-- The code point in lower-case hexadecimal between braces, with no leading zeros.
def hexEscape (c : Char) : List Char :=
  ['\\', 'u', '{'] ++ Nat.toDigits 16 c.toNat ++ ['}']

def escape (c : Char) : List Char :=
  match c with
  | '"'  => ['\\', '"']
  | '\\' => ['\\', '\\']
  | '\n' => ['\\', 'n']
  | '\r' => ['\\', 'r']
  | '\t' => ['\\', 't']
  | '\x00' => ['\\', '0']
  | c => if isPlain c then [c] else hexEscape c

def quoted (s : String) : String :=
  String.ofList ('"' :: s.toList.flatMap escape ++ ['"'])

end Zpl.Text
