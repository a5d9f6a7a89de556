import Zpl.Document.Methods
import Zpl.Script.Step

namespace Zpl

def Document.elementText (d : Document) (index : Nat) : Report Answer :=
  match d.elements[index]? with
  | none   => .done d .absent
  | some e =>
    match e.text? with
    | none      => ⟨d, [], .error .emptyOpcode⟩
    | some text => .done d (.text text)

def Report.acknowledged (r : Report Unit) : Report Answer :=
  r.map fun _ => .done

mutual

def Step.run : Step → Document → Report Answer
  | .addRaw text, d => (d.addRaw text).acknowledged
  | .add c, d => (d.add c).acknowledged
  | .emit i, d => (d.make i).acknowledged
  | .addField x y data, d => (d.addField x y data).acknowledged
  | .addFontField x y face height width data, d =>
    (d.addFontField x y face height width data).acknowledged
  | .label body, d => (d.label (Script.run body)).acknowledged
  | .clear, _ => .done .empty .done
  | .render, d => d.render.map .text
  | .renderWith separator, d => (d.renderWith separator).map .text
  | .display, d => d.display.map .text
  | .dump, d => .done d (.text d.dump)
  | .json, d => .done d (.text d.json)
  | .isEmpty, d => .done d (.flag d.isEmpty)
  | .element index, d => d.elementText index
  | .fail v, d => ⟨d, [], .error (.rejected v)⟩
  | .attempt step, d => (step.run d).passRefusal .done

def Script.run : Script → Document → Report Unit
  | [], d           => .done d ()
  | step :: rest, d => (step.run d).andThen (Script.run rest)

end

def Script.compose (s : Script) : Report String :=
  Document.compose s.run

end Zpl
