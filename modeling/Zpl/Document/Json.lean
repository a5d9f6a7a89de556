import Zpl.Document.Basic
import Zpl.Json.Printer

namespace Zpl

def Command.slotsToJson (c : Command) : Json :=
  .arr (c.slots.map Slot.toJson)

def Element.toJson : Element → Json
  | command c =>
    .obj [("kind", .str "command"), ("prefix", .str c.opcode), ("parameters", c.slotsToJson)]
  | raw text =>
    .obj [("kind", .str "raw"), ("text", .str text)]

namespace Document

def toJson (d : Document) : Json :=
  .obj [("elements", .arr (d.elements.map Element.toJson))]

def json (d : Document) : String :=
  d.toJson.compact

def dump (d : Document) : String :=
  d.toJson.pretty

end Document
end Zpl
