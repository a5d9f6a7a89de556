import Zpl.Proofs.Json.Token
import Zpl.Proofs.Text.Pieces

namespace Zpl.Json

-- A line at a level, two blanks for each of which stand before its text.
structure Line where
  level : Nat
  text  : List Char

def Line.indented (l : Line) : List Char :=
  List.replicate (2 * l.level) ' ' ++ l.text

-- The lines of a container around those of its items. If it has none, it is on one line.
def bracketLines (level : Nat) (before after : List Char) (first last : Char) (inner : List Line) :
    List Line :=
  if inner.isEmpty then
    [⟨level, before ++ [first, last] ++ after⟩]
  else
    ⟨level, before ++ [first]⟩ :: inner ++ [⟨level, last :: after⟩]

mutual

-- The lines of a value, with what stands before it on the first of them and after it on the last.
def lines (level : Nat) (before after : List Char) : Json → List Line
  | .arr items  => bracketLines level before after '[' ']' (itemLines (level + 1) items)
  | .obj fields => bracketLines level before after '{' '}' (fieldLines (level + 1) fields)
  | j           => [⟨level, before ++ j.compactChars ++ after⟩]

def itemLines (level : Nat) : List Json → List Line
  | []           => []
  | item :: rest => item.lines level [] (commaBefore rest) ++ itemLines level rest

def fieldLines (level : Nat) : List (String × Json) → List Line
  | []                   => []
  | (key, value) :: rest =>
    value.lines level (stringChars key ++ [':', ' ']) (commaBefore rest) ++ fieldLines level rest

end

def onLines (ls : List Line) : List Char :=
  (ls.map Line.indented).flatMap ('\n' :: ·)

@[simp]
theorem onLines_nil : onLines [] = [] :=
  rfl

@[simp]
theorem onLines_cons (level : Nat) (text : List Char) (ls : List Line) :
    onLines (⟨level, text⟩ :: ls) = newline level ++ text ++ onLines ls := by
  simp [onLines, Line.indented, newline]

@[simp]
theorem onLines_append (ls ls' : List Line) : onLines (ls ++ ls') = onLines ls ++ onLines ls' := by
  simp [onLines]

@[simp]
theorem onLines_eq_nil_iff {ls : List Line} : onLines ls = [] ↔ ls = [] := by
  cases ls <;> simp [onLines]

theorem onLines_bracketLines (level : Nat) (before after : List Char) (first last : Char)
    (inner : List Line) :
    onLines (bracketLines level before after first last inner) =
      newline level ++ before ++ (first :: block level (onLines inner) ++ [last]) ++ after := by
  by_cases h : inner = [] <;> simp [bracketLines, block, h]

mutual

theorem onLines_lines (level : Nat) (before after : List Char) (j : Json) :
    onLines (j.lines level before after) =
      newline level ++ before ++ j.prettyChars level ++ after := by
  match j with
  | .null | .bool _ | .int _ | .str _ => simp [lines, prettyChars, compactChars]
  | .arr items  => rw [lines, prettyChars, onLines_bracketLines, onLines_itemLines]
  | .obj fields => rw [lines, prettyChars, onLines_bracketLines, onLines_fieldLines]

theorem onLines_itemLines (level : Nat) (items : List Json) :
    onLines (itemLines level items) = prettyItems level items := by
  match items with
  | []           => rfl
  | item :: rest => simp [itemLines, prettyItems, onLines_lines level, onLines_itemLines level rest]

theorem onLines_fieldLines (level : Nat) (fields : List (String × Json)) :
    onLines (fieldLines level fields) = prettyFields level fields := by
  match fields with
  | []                   => rfl
  | (key, value) :: rest =>
    simp [fieldLines, prettyFields, onLines_lines level, onLines_fieldLines level rest]

end

def Line.IsSingle (l : Line) : Prop :=
  '\n' ∉ l.text

theorem Line.IsSingle.not_mem_indented {l : Line} (h : l.IsSingle) : '\n' ∉ l.indented := by
  have h : '\n' ∉ l.text := h
  simp [indented, h]

theorem newline_not_mem_escape (c : Char) : '\n' ∉ escape c := by
  unfold escape
  split
  case h_8 hn _ _ =>
    split
    case isTrue h  =>
      have hd : ∀ d < 16, '\n' ≠ Nat.digitChar d := by decide
      simp [controlEscape, hd (c.toNat / 16) (by omega), hd (c.toNat % 16) (by omega)]
    case isFalse h => simpa using Ne.symm hn
  all_goals decide

theorem newline_not_mem_stringChars (s : String) : '\n' ∉ stringChars s := by
  simp [stringChars, newline_not_mem_escape]

theorem newline_not_mem_toString (n : Int) : '\n' ∉ (toString n).toList := fun h =>
  absurd (Text.isBare_of_mem_toString n _ h) (by decide)

theorem newline_not_mem_commaBefore (rest : List α) : '\n' ∉ commaBefore rest := by
  cases rest <;> simp [commaBefore]

theorem bracketLines_single {level : Nat} {before after : List Char} {first last : Char}
    {inner : List Line} (hb : '\n' ∉ before) (ha : '\n' ∉ after) (hf : '\n' ≠ first)
    (hl : '\n' ≠ last) (h : ∀ l ∈ inner, l.IsSingle) :
    ∀ l ∈ bracketLines level before after first last inner, l.IsSingle := by
  unfold bracketLines
  split
  case isTrue  => simp [Line.IsSingle, hb, ha, hf, hl]
  case isFalse => simpa [Line.IsSingle, or_imp, forall_and, hb, ha, hf, hl] using h

mutual

theorem lines_single {level : Nat} {before after : List Char} (hb : '\n' ∉ before)
    (ha : '\n' ∉ after) (j : Json) : ∀ l ∈ j.lines level before after, l.IsSingle := by
  match j with
  | .null       => simp [lines, Line.IsSingle, compactChars, hb, ha]
  | .bool b     => cases b <;> simp [lines, Line.IsSingle, compactChars, boolChars, hb, ha]
  | .int n      =>
    simpa [lines, Line.IsSingle, compactChars, hb, ha] using newline_not_mem_toString n
  | .str s      =>
    simp [lines, Line.IsSingle, compactChars, newline_not_mem_stringChars, hb, ha]
  | .arr items  =>
    exact bracketLines_single hb ha (by decide) (by decide) <| itemLines_single items
  | .obj fields =>
    exact bracketLines_single hb ha (by decide) (by decide) <| fieldLines_single fields

theorem itemLines_single {level : Nat} (items : List Json) :
    ∀ l ∈ itemLines level items, l.IsSingle := by
  match items with
  | []           => exact List.forall_mem_nil _
  | item :: rest =>
    have hc := newline_not_mem_commaBefore rest
    exact List.forall_mem_append.mpr ⟨lines_single List.not_mem_nil hc item, itemLines_single rest⟩

theorem fieldLines_single {level : Nat} (fields : List (String × Json)) :
    ∀ l ∈ fieldLines level fields, l.IsSingle := by
  match fields with
  | []                   => exact List.forall_mem_nil _
  | (key, value) :: rest =>
    have hk : '\n' ∉ stringChars key ++ [':', ' '] := by simp [newline_not_mem_stringChars]
    have hc := newline_not_mem_commaBefore rest
    exact List.forall_mem_append.mpr ⟨lines_single hk hc value, fieldLines_single rest⟩

end

theorem splitOn_pretty (j : Json) :
    j.pretty.toList.splitOn '\n' = (j.lines 0 [] []).map Line.indented := by
  have hl : '\n' :: j.pretty.toList = onLines (j.lines 0 [] []) := by
    rw [onLines_lines, pretty, String.toList_ofList]
    simp [newline]
  have hn : ∀ l ∈ (j.lines 0 [] []).map Line.indented, '\n' ∉ l := by
    rw [List.forall_mem_map]
    intro l hm
    exact (lines_single List.not_mem_nil List.not_mem_nil j l hm).not_mem_indented
  have hs : [] :: j.pretty.toList.splitOn '\n' = [] :: (j.lines 0 [] []).map Line.indented := by
    rw [←List.splitOn_append_cons_self_of_not_mem List.not_mem_nil, List.nil_append, hl, onLines,
      Text.splitOn_flatMap_cons hn]
  exact (List.cons.inj hs).right

-- An item that is empty is on its line with what stands before and after it.
example :
    (Json.obj [("a", .arr [.int 1, .obj []]), ("b", .arr [])]).pretty =
      "\x7b\n  \"a\": [\n    1,\n    \x7b\x7d\n  ],\n  \"b\": []\n\x7d" := by
  decide

end Zpl.Json
