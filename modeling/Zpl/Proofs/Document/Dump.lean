import Mathlib.Data.List.Forall2
import Zpl.Proofs.Json.Layout
import Zpl.Proofs.Json.Reader
import Zpl.Script.Run

namespace Zpl

inductive Value.Shown : Value → Json → Prop
  | int  : Value.Shown (.int n) (.int n)
  | flag : Value.Shown (.flag b) (.bool b)
  | char : Value.Shown (.char c) (.str (String.singleton c))
  | text : Value.Shown (.text s) (.str s)
  | code : Value.Shown (.code s) (.str s)

-- The data of a slot: the key and, exactly when there is one, the value.
inductive Slot.Shown : Slot → Json → Prop
  | present : v.Shown j → Slot.Shown ⟨k, some v⟩ (.obj [("key", .str k), ("value", j)])
  | absent  : Slot.Shown ⟨k, none⟩ (.obj [("key", .str k)])

inductive Element.Shown : Element → Json → Prop
  | raw     : Element.Shown (.raw text) (.obj [("kind", .str "raw"), ("text", .str text)])
  | command : List.Forall₂ Slot.Shown c.slots slots →
      Element.Shown (.command c)
        (.obj [("kind", .str "command"), ("prefix", .str c.opcode), ("parameters", .arr slots)])

theorem Value.shown_toJson (v : Value) : v.Shown v.toJson := by
  cases v
  case int  => exact .int
  case flag => exact .flag
  case char => exact .char
  case text => exact .text
  case code => exact .code

theorem Slot.shown_toJson (s : Slot) : s.Shown s.toJson := by
  match s with
  | ⟨_, none⟩   => exact .absent
  | ⟨_, some v⟩ => exact .present v.shown_toJson

theorem Element.shown_toJson (e : Element) : e.Shown e.toJson := by
  cases e
  case raw       => exact .raw
  case command c =>
    apply Element.Shown.command
    rw [List.forall₂_map_right_iff, List.forall₂_same]
    exact fun s _ => s.shown_toJson

namespace Document

-- Whatever a document holds, its texts are read back as the data of its elements, and they differ
-- in their layout only. There are such texts also when the document cannot be rendered.
theorem dump_reads_back (d : Document) :
    ∃ items : List Json,
      List.Forall₂ Element.Shown d.elements items ∧
      (∀ j, (Json.Denotes d.dump j ↔ j = .obj [("elements", .arr items)]) ∧
        (Json.Denotes d.json j ↔ j = .obj [("elements", .arr items)])) ∧
      Json.read? d.dump = some (.obj [("elements", .arr items)]) ∧
      Json.read? d.json = some (.obj [("elements", .arr items)]) ∧
      Json.unspaced d.dump.toList = d.json.toList ∧
      (Step.dump.run d).result = .ok (.text d.dump) ∧
      (Step.json.run d).result = .ok (.text d.json) := by
  have hd : Json.Denotes d.dump d.toJson := Json.denotes_pretty d.toJson
  have hj : Json.Denotes d.json d.toJson := Json.denotes_compact d.toJson
  have hs : List.Forall₂ Element.Shown d.elements (d.elements.map Element.toJson) := by
    rw [List.forall₂_map_right_iff, List.forall₂_same]
    exact fun e _ => e.shown_toJson
  refine ⟨d.elements.map Element.toJson, hs, fun j => ⟨?dump, ?json⟩, hd.read?_eq, hj.read?_eq,
    Json.unspaced_pretty d.toJson, rfl, rfl⟩
  case dump => exact ⟨fun h => h.unique hd, fun h => h ▸ hd⟩
  case json => exact ⟨fun h => h.unique hj, fun h => h ▸ hj⟩

end Document
end Zpl
