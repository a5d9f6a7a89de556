import Zpl.Document.Basic

namespace Zpl

inductive Separator where
  | none
  | newline
  deriving DecidableEq

def Separator.text : Separator → String
  | none    => ""
  | newline => "\n"

instance : Inhabited Separator := ⟨.none⟩

namespace Element

def writeTo? (out : String) : Element → Option String
  | command c => c.writeTo? out
  | raw text  => out ++ text

def text? (e : Element) : Option String :=
  e.writeTo? ""

def renderAll? (separator : Separator) (es : List Element) : Option String :=
  es.foldlM (fun out e => (e.writeTo? out).map (· ++ separator.text)) ""

end Element

def Document.text? (d : Document) (separator : Separator := default) : Option String :=
  Element.renderAll? separator d.elements

end Zpl
