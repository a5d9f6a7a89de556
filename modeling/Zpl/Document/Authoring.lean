import Zpl.Document.Render
import Zpl.Document.Report

namespace Zpl.Document

def appendAll (d : Document) (es : List Element) : Report Unit :=
  ⟨⟨d.elements ++ es⟩, es.map .appended, .ok ()⟩

def addRaw (d : Document) (text : String) : Report Unit :=
  d.appendAll [.raw text]

-- Appends a command that was made elsewhere. The log is not told of a refusal.
def add (d : Document) (c : Command) : Report Unit :=
  match c.violation? with
  | some v => ⟨d, [], .error (.rejected v)⟩
  | none   => d.appendAll [.command c]

def emit (d : Document) (i : Instruction) : Report Unit :=
  match i.violation? with
  | some v => ⟨d, [.rejectedCommand v.command v.message], .error (.rejected v)⟩
  | none   => d.appendAll [.ofInstruction i]

-- Makes what can be refused of a field before any of it is appended. Its data is a `String` already:
-- data that had to be turned into one would be so only behind the origin and the font.
def addFieldOf (d : Document) (is : List Instruction) : Report Unit :=
  match is.findSome? (·.violation?) with
  | some v => ⟨d, [.rejectedField v.message], .error (.rejected v)⟩
  | none   => d.appendAll (is.map .ofInstruction)

def addField (d : Document) (x y : Int) (data : String) : Report Unit :=
  d.addFieldOf [.fieldOrigin x y none, .fieldData data, .fieldSeparator]

def addFontField (d : Document) (x y : Int) (face : Font) (height width : Int) (data : String) :
    Report Unit :=
  d.addFieldOf
    [.fieldOrigin x y none, .font face height width, .fieldData data, .fieldSeparator]

def bracketed (es : List Element) : List Element :=
  .ofInstruction .startFormat :: es ++ [.ofInstruction .endFormat]

-- Runs the body on a document of its own and takes over what that holds, if the body succeeds.
def label (d : Document) (body : Document → Report Unit) : Report Unit :=
  let inner := body empty
  match inner.result with
  | .error halt => ⟨d, inner.events, .error halt⟩
  | .ok _ =>
    let outer := d.appendAll (bracketed inner.document.elements)
    { outer with events := inner.events ++ outer.events }

def renderWith (d : Document) (separator : Separator) : Report String :=
  match d.text? separator with
  | none      => ⟨d, [], .error .emptyOpcode⟩
  | some text => ⟨d, [.rendered d.length text.utf8ByteSize], .ok text⟩

def render (d : Document) : Report String :=
  d.renderWith default

def display (d : Document) : Report String :=
  d.render

def compose (body : Document → Report Unit) : Report String :=
  (body empty).andThen render

end Zpl.Document
