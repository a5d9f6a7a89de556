import Zpl.Script.Session
import Zpl.Proofs.Document.Render
import Zpl.Proofs.Script.Outcome

namespace Zpl

def Move.commands : Move → List Command
  | perform step => step.commands
  | _            => []

mutual

-- The documents that there are while a step is performed: the one it is performed on, before and
-- after, and those of the bodies that it runs.
inductive Step.Reaches : Step → Document → Document → Prop
  | before    : Step.Reaches step d d
  | after     : Step.Reaches step d (step.run d).document
  | inside    : Script.Reaches body .empty e → Step.Reaches (.label body) d e
  | attempted : Step.Reaches step d e → Step.Reaches (.attempt step) d e

inductive Script.Reaches : Script → Document → Document → Prop
  | start : Script.Reaches s d d
  | head  : Step.Reaches step d e → Script.Reaches (step :: rest) d e
  | tail  : (step.run d).result = .ok a → Script.Reaches rest (step.run d).document e →
      Script.Reaches (step :: rest) d e

end

def Move.leaves : Move → List Step
  | perform step => step.leaves
  | _            => []

structure Step.Invariant (allowed : Step → Prop) (P : Document → Prop) : Prop where
  empty : P .empty
  run   : ∀ s d, (∀ op ∈ Step.leaves s, allowed op) → P d → P (s.run d).document

-- The documents that there are while moves are made, each on the document under its name. A body
-- can also copy what it works on, and go on with the copy by allowed operations.
inductive Session.Reaches (allowed : Step → Prop) :
    Session → List (String × Move) → Document → Prop
  | named  : Reaches allowed s moves (s.document name)
  | during : Step.Reaches step (s.document name) d →
      Reaches allowed s ((name, .perform step) :: moves) d
  | later  : Reaches allowed (s.play name m).1 moves d → Reaches allowed s ((name, m) :: moves) d
  | aside  : Reaches allowed s moves d → (∀ op ∈ Script.leaves copy, allowed op) →
      Script.Reaches copy d e → Reaches allowed s moves e

section

variable {allowed : Step → Prop} {P : Document → Prop} (hP : Step.Invariant allowed P)

include hP

mutual

theorem Step.Reaches.invariant {s : Step} {d e : Document} :
    s.Reaches d e → (∀ op ∈ s.leaves, allowed op) → P d → P e
  | .before, _, h        => h
  | .after, ha, h        => hP.run _ _ ha h
  | .inside hr, ha, _    => hr.invariant ha hP.empty
  | .attempted hr, ha, h => hr.invariant ha h

theorem Script.Reaches.invariant {s : Script} {d e : Document} :
    Script.Reaches s d e → (∀ op ∈ Script.leaves s, allowed op) → P d → P e
  | .start, _, h      => h
  | .head hr, ha, h   => hr.invariant (List.forall_mem_append.mp ha).1 h
  | .tail _ hr, ha, h =>
    have ⟨hs, ht⟩ := List.forall_mem_append.mp ha
    hr.invariant ht <| hP.run _ _ hs h

end

namespace Session

variable {s : Session}

theorem document_invariant (h : ∀ p ∈ s.documents, P p.2) (name : String) :
    P (s.document name) := by
  cases hd : s.documents.lookup name
  case none   => simpa [document, hd] using hP.empty
  case some d =>
    have ⟨_, _, hl, _⟩ := List.lookup_eq_some_iff.mp hd
    simpa [document, hd] using h (name, d) <| by simp [hl]

omit hP in
theorem store_invariant (h : ∀ p ∈ s.documents, P p.2) (hd : P d) (name : String) :
    ∀ p ∈ (s.store name d).documents, P p.2 := by
  intro p hp
  cases hp
  case head    => exact hd
  case tail hp => exact h p <| List.mem_of_mem_filter hp

theorem move_invariant (h : ∀ p ∈ s.documents, P p.2) (hd : P d) {m : Move}
    (ha : ∀ op ∈ m.leaves, allowed op) :
    (∀ p ∈ (s.move d m).1.documents, P p.2) ∧ P (s.move d m).2.document := by
  cases m
  case renew        => exact ⟨h, hP.empty⟩
  case copyTo name  => exact ⟨store_invariant h hd name, hd⟩
  case share id c   =>
    rw [move]
    split <;> exact ⟨h, hd⟩
  case perform step => exact ⟨h, hP.run step d ha hd⟩

theorem play_invariant (h : ∀ p ∈ s.documents, P p.2) {m : Move}
    (ha : ∀ op ∈ m.leaves, allowed op) (name : String) :
    ∀ p ∈ (s.play name m).1.documents, P p.2 :=
  have ⟨hs, hd⟩ := move_invariant hP h (document_invariant hP h name) ha
  store_invariant hs hd name

theorem Reaches.invariant (hr : Reaches allowed s moves d) (h : ∀ p ∈ s.documents, P p.2)
    (ha : ∀ m ∈ moves, ∀ op ∈ m.2.leaves, allowed op) : P d := by
  induction hr
  case named name        => exact document_invariant hP h name
  case during hr         =>
    exact hr.invariant hP (ha _ List.mem_cons_self) <| document_invariant hP h _
  case later hi          =>
    have ⟨hm, hms⟩ := List.forall_mem_cons.mp ha
    exact hi (play_invariant hP h hm _) hms
  -- The copy was made of a document that had been reached.
  case aside hcopy hr hi => exact hr.invariant hP hcopy <| hi h ha

end Session

end

variable {commands : List Command}

theorem Step.forall_mem_commands {s : Step} {p : Command → Prop} :
    (∀ c ∈ s.commands, p c) ↔ ∀ op ∈ s.leaves, ∀ c ∈ op.commands, p c := by
  induction s
  case operation op ho => rw [leaves_of_isOperation ho, List.forall_mem_singleton]
  case label body hi   =>
    calc (∀ c ∈ Script.commands body, p c)
      _ ↔ ∀ step ∈ body, ∀ c ∈ step.commands, p c := Script.forall_mem_commands
      _ ↔ ∀ step ∈ body, ∀ op ∈ step.leaves, ∀ c ∈ op.commands, p c := forall₂_congr hi
      _ ↔ ∀ op ∈ Script.leaves body, ∀ c ∈ op.commands, p c := Script.forall_mem_leaves.symm
  case attempt step hi => exact hi

theorem Move.forall_mem_commands {m : Move} {p : Command → Prop} :
    (∀ c ∈ m.commands, p c) ↔ ∀ op ∈ m.leaves, ∀ c ∈ op.commands, p c := by
  cases m
  case perform step => exact Step.forall_mem_commands
  all_goals simp [commands, leaves]

theorem Step.accepted_invariant :
    Step.Invariant (∀ c ∈ ·.commands, c ∈ commands) (·.Accepted commands) where
  empty := Document.empty_accepted
  run s d ha h := s.run_accepted d (forall_mem_commands.mpr ha) h

namespace Session

def Accepted (commands : List Command) (s : Session) : Prop :=
  ∀ p ∈ s.documents, p.2.Accepted commands

theorem empty_accepted : Accepted commands {} :=
  fun _ h => nomatch h

variable {s : Session}

theorem Reaches.accepted (hr : Reaches (∀ c ∈ ·.commands, c ∈ commands) s moves d)
    (h : s.Accepted commands) (hc : ∀ m ∈ moves, ∀ c ∈ m.2.commands, c ∈ commands) :
    d.Accepted commands :=
  hr.invariant Step.accepted_invariant h fun m hm => Move.forall_mem_commands.mp <| hc m hm

-- Only what printers take is ever held, and there is a text of it unless it has a command of the
-- user's own without an opcode, which then is one of those that were handed in.
theorem holds_only_accepted (hc : ∀ m ∈ moves, ∀ c ∈ m.2.commands, c ∈ commands)
    (hr : Reaches (∀ c ∈ ·.commands, c ∈ commands) {} moves d) :
    (∀ i, .ofInstruction i ∈ d.elements → i.Conforms) ∧
    (∀ opcode slots, .command (.custom opcode slots) ∈ d.elements →
      .custom opcode slots ∈ commands) ∧
    ((∀ slots, .command (.custom "" slots) ∉ d.elements) →
      (∀ separator, ∃ text, (d.renderWith separator).result = .ok text) ∧
      (∃ text, d.render.result = .ok text ∧ d.display.result = .ok text) ∧
      ∀ e ∈ d.elements, ∃ text, e.text? = some text) := by
  have h := hr.accepted empty_accepted hc
  refine ⟨fun i hi => (h _ hi).conforms, fun _ _ hm => (h _ hm).mem_of_custom, fun ho => ?_⟩
  have hw : ∀ e ∈ d.elements, e.IsWritable := by
    intro e he
    rw [Element.isWritable_iff]
    exact fun slots hs => ho slots <| hs ▸ he
  have ⟨text, ht⟩ := Document.exists_renderWith hw default
  exact ⟨Document.exists_renderWith hw, ⟨text, ht, ht⟩, fun e he => (hw e he).exists_text⟩

-- The document of a body that still runs, and that is going to fail.
theorem holds_only_accepted_in_running_body :
    let d : Document := ⟨[.ofInstruction (.labelLength 1), .command (.custom "^ZZ" [])]⟩
    let body : Script :=
      [.emit (.labelLength 1), .attempt (.emit (.labelLength 0)), .add (.custom "^ZZ" []),
       .emit (.labelLength 0)]
    let moves : List (String × Move) := [("a", .copyTo "b"), ("b", .perform (.label body))]
    Reaches (∀ c ∈ ·.commands, c ∈ [.custom "^ZZ" []]) {} moves d ∧
      (Instruction.labelLength 1).Conforms ∧ ∃ text, d.render.result = .ok text := by
  intro d body moves
  have hr : Reaches (∀ c ∈ ·.commands, c ∈ [.custom "^ZZ" []]) {} moves d :=
    .later <| .during <| .inside <| .tail rfl <| .tail rfl <| .tail rfl .start
  have hc : ∀ m ∈ moves, ∀ c ∈ m.2.commands, c ∈ [.custom "^ZZ" []] := by
    simp [moves, body, Move.commands, Step.commands, Script.commands]
  obtain ⟨conforms, _, shown⟩ := holds_only_accepted hc hr
  obtain ⟨_, ⟨text, ht, _⟩, _⟩ := shown <| by simp [d, Element.ofInstruction]
  exact ⟨hr, conforms _ List.mem_cons_self, text, ht⟩

end Session
end Zpl
