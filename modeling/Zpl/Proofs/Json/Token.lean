import Zpl.Json.Printer
import Zpl.Proofs.Text.Bare

namespace Zpl.Json

inductive Mark where
  | beginArray
  | endArray
  | beginObject
  | endObject
  | nameSeparator
  | valueSeparator
  deriving DecidableEq

def Mark.ofChar? : Char → Option Mark
  | '[' => some beginArray
  | ']' => some endArray
  | '{' => some beginObject
  | '}' => some endObject
  | ':' => some nameSeparator
  | ',' => some valueSeparator
  | _   => none

-- A word is a number or a literal name. What is quoted still has its escapes.
inductive Token where
  | mark (m : Mark)
  | word (cs : List Char)
  | quoted (cs : List Char)
  deriving DecidableEq

def isBlank (c : Char) : Bool :=
  c == ' ' || c == '\t' || c == '\n' || c == '\r'

def isWordChar (c : Char) : Bool :=
  !isBlank c && (Mark.ofChar? c).isNone && c != '"'

-- What the lexer is in the middle of, with what it has read of it, the last character first.
inductive Lexer where
  | between
  | word (read : List Char)
  | quoted (read : List Char)
  | escaped (read : List Char)

namespace Lexer

def start (c : Char) : List Token × Lexer :=
  if isBlank c then
    ([], between)
  else if c = '"' then
    ([], quoted [])
  else
    match Mark.ofChar? c with
    | some m => ([.mark m], between)
    | none   => ([], word [c])

def next : Lexer → Char → List Token × Lexer
  | between, c => start c
  | word read, c =>
    if isWordChar c then
      ([], word (c :: read))
    else
      -- What ends a word is read as if there had been none before it.
      (.word read.reverse :: (start c).1, (start c).2)
  | quoted read, c =>
    if c = '"' then
      ([.quoted read.reverse], between)
    else if c = '\\' then
      ([], escaped (c :: read))
    else
      ([], quoted (c :: read))
  | escaped read, c => ([], quoted (c :: read))

def finish? : Lexer → Option (List Token)
  | between             => some []
  | word read           => some [.word read.reverse]
  | quoted _ | escaped _ => none

def run? (l : Lexer) : List Char → Option (List Token)
  | []      => l.finish?
  | c :: cs => ((l.next c).2.run? cs).map ((l.next c).1 ++ ·)

end Lexer

def tokens? (cs : List Char) : Option (List Token) :=
  Lexer.between.run? cs

-- A text that a quote can stand around: no quote in it is without a backslash.
inductive Closed : List Char → Prop
  | nil   : Closed []
  | plain : c ≠ '"' → c ≠ '\\' → Closed cs → Closed (c :: cs)
  | pair  : Closed cs → Closed ('\\' :: c :: cs)

def Ends (cs : List Char) : Prop :=
  ∀ c ∈ cs.head?, isWordChar c = false

-- A text that has the tokens in their order, and nothing else but blanks. Two words do not meet.
inductive Spells : List Char → List Token → Prop
  | nil    : Spells [] []
  | blank  : isBlank c → Spells cs ts → Spells (c :: cs) ts
  | mark   : Mark.ofChar? c = some m → Spells cs ts → Spells (c :: cs) (.mark m :: ts)
  | word   : w ≠ [] → (∀ c ∈ w, isWordChar c) → Ends cs → Spells cs ts →
      Spells (w ++ cs) (.word w :: ts)
  | quoted : Closed body → Spells cs ts → Spells ('"' :: body ++ '"' :: cs) (.quoted body :: ts)

theorem Closed.append (h : Closed cs) (h' : Closed cs') : Closed (cs ++ cs') := by
  induction h
  case nil              => exact h'
  case plain hq hb _ hi => exact .plain hq hb hi
  case pair hi          => exact .pair hi

theorem Ends.append {cs : List Char} (h : Ends cs) (h' : Ends cs') : Ends (cs ++ cs') := by
  cases cs
  case nil  => exact h'
  case cons => exact h

theorem Spells.append (h : Spells cs ts) (h' : Spells cs' ts') (he : Ends cs') :
    Spells (cs ++ cs') (ts ++ ts') := by
  induction h
  case nil              => exact h'
  case blank hb _ hi    => exact .blank hb hi
  case mark hm _ hi     => exact .mark hm hi
  case word hne hw hc _ hi =>
    rw [List.append_assoc]
    exact .word hne hw (hc.append he) hi
  case quoted hb _ hi =>
    simpa using Spells.quoted hb hi

namespace Lexer

variable (cs read : List Char)

theorem run?_blank (h : isBlank c) : between.run? (c :: cs) = between.run? cs := by
  simp [run?, next, start, h]

theorem run?_mark (h : Mark.ofChar? c = some m) :
    between.run? (c :: cs) = (between.run? cs).map (.mark m :: ·) := by
  unfold Mark.ofChar? at h
  split at h
  case h_7 => contradiction
  all_goals
    cases h
    rfl

theorem run?_word (hw : ∀ c ∈ w, isWordChar c) :
    (word read).run? (w ++ cs) = (word (w.reverse ++ read)).run? cs := by
  induction w generalizing read
  case nil => rfl
  case cons c w hi =>
    have ⟨hc, hw⟩ := List.forall_mem_cons.mp hw
    simp [run?, next, hc, hi _ hw]

theorem run?_word_of_between (hne : w ≠ []) (hw : ∀ c ∈ w, isWordChar c) :
    between.run? (w ++ cs) = (word w.reverse).run? cs := by
  cases w
  case nil => contradiction
  case cons c w =>
    have ⟨hc, hw⟩ := List.forall_mem_cons.mp hw
    simp only [isWordChar, Bool.and_eq_true, Bool.not_eq_true', Option.isNone_iff_eq_none,
      bne_iff_ne] at hc
    simp [run?, next, start, hc, run?_word _ _ hw]

theorem run?_word_of_ends (he : Ends cs) :
    (word read).run? cs = (between.run? cs).map (.word read.reverse :: ·) := by
  cases cs
  case nil => rfl
  case cons c cs =>
    have hc : isWordChar c = false := he c rfl
    simp [run?, next, hc, Function.comp_def]

theorem run?_quoted (hb : Closed body) :
    (quoted read).run? (body ++ '"' :: cs) =
      (between.run? cs).map (.quoted (read.reverse ++ body) :: ·) := by
  induction hb generalizing read
  case nil              => simp [run?, next]
  case plain hq hb _ hi => simp [run?, next, hq, hb, hi, Function.comp_def]
  case pair hi          => simp [run?, next, hi, Function.comp_def]

end Lexer

theorem Spells.tokens?_eq (h : Spells cs ts) : tokens? cs = some ts := by
  rw [tokens?]
  induction h
  case nil                => rfl
  case blank hb _ hi      => rw [Lexer.run?_blank _ hb, hi]
  case mark hm _ hi       => rw [Lexer.run?_mark _ hm, hi, Option.map_some]
  case word hne hw he _ hi =>
    rw [Lexer.run?_word_of_between _ hne hw, Lexer.run?_word_of_ends _ _ he, hi, Option.map_some,
      List.reverse_reverse]
  case quoted body cs _ hb _ hi =>
    have h : Lexer.between.run? ('"' :: body ++ '"' :: cs) =
        (Lexer.quoted []).run? (body ++ '"' :: cs) := by
      simp [Lexer.run?, Lexer.next, Lexer.start, isBlank]
    rw [h, Lexer.run?_quoted _ _ hb, hi, Option.map_some, List.reverse_nil, List.nil_append]

def separatorBefore (rest : List α) : List Token :=
  if rest.isEmpty then [] else [.mark .valueSeparator]

def quotedToken (s : String) : Token :=
  .quoted (s.toList.flatMap escape)

mutual

def tokens : Json → List Token
  | .null       => [.word "null".toList]
  | .bool b     => [.word (boolChars b)]
  | .int n      => [.word (toString n).toList]
  | .str s      => [quotedToken s]
  | .arr items  => .mark .beginArray :: itemTokens items ++ [.mark .endArray]
  | .obj fields => .mark .beginObject :: fieldTokens fields ++ [.mark .endObject]

def itemTokens : List Json → List Token
  | []           => []
  | item :: rest => tokens item ++ separatorBefore rest ++ itemTokens rest

def fieldTokens : List (String × Json) → List Token
  | []                   => []
  | (key, value) :: rest =>
    quotedToken key :: .mark .nameSeparator :: tokens value ++ separatorBefore rest ++
      fieldTokens rest

end

theorem ends_nil : Ends [] :=
  nofun

theorem ends_cons (h : isWordChar c = false) (cs : List Char) : Ends (c :: cs) := by
  simpa [Ends] using h

theorem Spells.of_word {w : List Char} (hne : w ≠ []) (hw : ∀ c ∈ w, isWordChar c) :
    Spells w [.word w] := by
  have h : Spells (w ++ []) [.word w] := .word hne hw (fun _ h => nomatch h) .nil
  rwa [List.append_nil] at h

theorem Spells.item (h : Spells cs ts) (rest : List α) (h' : Spells cs' ts')
    (he : rest = [] → cs' = []) :
    Spells (cs ++ (commaBefore rest ++ cs')) (ts ++ (separatorBefore rest ++ ts')) := by
  cases rest
  case nil  => exact h.append h' (he rfl ▸ ends_nil)
  case cons => exact h.append (.mark rfl h') (ends_cons rfl _)

theorem digitChar_plain : ∀ d < 16, Nat.digitChar d ≠ '"' ∧ Nat.digitChar d ≠ '\\' := by
  decide

theorem closed_controlEscape {c : Char} (h : c.toNat < 0x20) : Closed (controlEscape c) := by
  have ⟨hq, hb⟩ := digitChar_plain (c.toNat / 16) (by omega)
  have ⟨hq', hb'⟩ := digitChar_plain (c.toNat % 16) (by omega)
  have h0 (cs : List Char) (h : Closed cs) : Closed ('0' :: cs) := .plain (by decide) (by decide) h
  exact .pair <| h0 _ <| h0 _ <| .plain hq hb <| .plain hq' hb' .nil

theorem closed_escape (c : Char) : Closed (escape c) := by
  unfold escape
  split
  case h_8 hq hb _ _ _ _ _ =>
    split
    case isTrue h => exact closed_controlEscape h
    case isFalse  => exact .plain hq hb .nil
  all_goals exact .pair .nil

theorem closed_flatMap_escape (cs : List Char) : Closed (cs.flatMap escape) := by
  induction cs
  case nil          => exact .nil
  case cons c cs hi => exact (closed_escape c).append hi

theorem spells_stringChars (s : String) (h : Spells cs ts) :
    Spells (stringChars s ++ cs) (quotedToken s :: ts) := by
  simpa [stringChars, quotedToken] using Spells.quoted (closed_flatMap_escape s.toList) h

theorem isWordChar_of_isBare {c : Char} (h : Text.isBare c) : isWordChar c := by
  have hne (d : Char) (hd : Text.isBare d = false) : c ≠ d := by
    rintro rfl
    rw [h] at hd
    contradiction
  have hb : isBlank c = false := by
    simp [isBlank, hne ' ' rfl, hne '\t' rfl, hne '\n' rfl, hne '\r' rfl]
  have hm : Mark.ofChar? c = none := by
    unfold Mark.ofChar?
    split
    case h_7 => rfl
    all_goals contradiction
  simp [isWordChar, hb, hm, hne '"' rfl]

theorem spells_int (n : Int) : Spells (toString n).toList [.word (toString n).toList] := by
  have hne : (toString n).toList ≠ [] := by
    cases n
    case ofNat   => exact mt String.toList_eq_nil_iff.mp Nat.repr_ne_empty
    case negSucc => exact Text.toList_toString_negSucc _ ▸ List.cons_ne_nil _ _
  exact .of_word hne fun c hc => isWordChar_of_isBare <| Text.isBare_of_mem_toString n c hc

theorem spells_bool (b : Bool) : Spells (boolChars b) [.word (boolChars b)] :=
  .of_word (by cases b <;> decide) <| by
    cases b <;> simp [boolChars, isWordChar, isBlank, Mark.ofChar?]

theorem spells_null : Spells "null".toList [.word "null".toList] :=
  .of_word (by decide) <| by simp [isWordChar, isBlank, Mark.ofChar?]

mutual

theorem spells_compact (j : Json) : Spells j.compactChars j.tokens := by
  match j with
  | .null   => exact spells_null
  | .bool b => exact spells_bool b
  | .int n  => exact spells_int n
  | .str s  => simpa [compactChars, tokens] using spells_stringChars s .nil
  | .arr items =>
    have hi := spells_compactItems items
    exact .mark rfl <| hi.append (.mark rfl .nil) <| ends_cons rfl _
  | .obj fields =>
    have hf := spells_compactFields fields
    exact .mark rfl <| hf.append (.mark rfl .nil) <| ends_cons rfl _

theorem spells_compactItems (items : List Json) :
    Spells (compactItems items) (itemTokens items) := by
  match items with
  | []           => exact .nil
  | item :: rest =>
    have hi := (spells_compact item).item rest (spells_compactItems rest) (· ▸ rfl)
    simpa [compactItems, itemTokens] using hi

theorem spells_compactFields (fields : List (String × Json)) :
    Spells (compactFields fields) (fieldTokens fields) := by
  match fields with
  | []                   => exact .nil
  | (key, value) :: rest =>
    have hf := (spells_compact value).item rest (spells_compactFields rest) (· ▸ rfl)
    simpa [compactFields, fieldTokens] using spells_stringChars key <| .mark rfl hf

end

theorem isBlank_of_mem_newline : ∀ c ∈ newline level, isBlank c := by
  intro c hc
  rcases List.mem_cons.mp hc with rfl | hc
  · rfl
  · rw [(List.mem_replicate.mp hc).right]
    rfl

theorem spells_newline (level : Nat) (h : Spells cs ts) : Spells (newline level ++ cs) ts := by
  have hb (bs : List Char) (hb : ∀ c ∈ bs, isBlank c) : Spells (bs ++ cs) ts := by
    induction bs
    case nil => exact h
    case cons c bs hi =>
      have ⟨hc, hbs⟩ := List.forall_mem_cons.mp hb
      exact .blank hc <| hi hbs
  exact hb _ isBlank_of_mem_newline

theorem spells_block (level : Nat) (h : Spells cs ts) : Spells (block level cs) ts := by
  unfold block
  split
  case isTrue he => rwa [List.isEmpty_iff.mp he] at h
  case isFalse =>
    have hn : Spells (newline level) [] := by simpa using spells_newline level .nil
    simpa using h.append hn <| ends_cons rfl _

mutual

theorem spells_pretty (level : Nat) (j : Json) : Spells (j.prettyChars level) j.tokens := by
  match j with
  | .null   => exact spells_null
  | .bool b => exact spells_bool b
  | .int n  => exact spells_int n
  | .str s  => simpa [prettyChars, tokens] using spells_stringChars s .nil
  | .arr items =>
    have hi := spells_block level <| spells_prettyItems (level + 1) items
    exact .mark rfl <| hi.append (.mark rfl .nil) <| ends_cons rfl _
  | .obj fields =>
    have hf := spells_block level <| spells_prettyFields (level + 1) fields
    exact .mark rfl <| hf.append (.mark rfl .nil) <| ends_cons rfl _

theorem spells_prettyItems (level : Nat) (items : List Json) :
    Spells (prettyItems level items) (itemTokens items) := by
  match items with
  | []           => exact .nil
  | item :: rest =>
    have hi := (spells_pretty level item).item rest (spells_prettyItems level rest) (· ▸ rfl)
    simpa [prettyItems, itemTokens] using spells_newline level hi

theorem spells_prettyFields (level : Nat) (fields : List (String × Json)) :
    Spells (prettyFields level fields) (fieldTokens fields) := by
  match fields with
  | []                   => exact .nil
  | (key, value) :: rest =>
    have hf := (spells_pretty level value).item rest (spells_prettyFields level rest) (· ▸ rfl)
    have hb := Spells.blank (by decide : isBlank ' ') hf
    have hk := spells_stringChars key <| .mark (c := ':') rfl hb
    simpa [prettyFields, fieldTokens] using spells_newline level hk

end

end Zpl.Json
