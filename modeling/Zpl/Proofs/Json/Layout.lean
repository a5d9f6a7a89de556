import Zpl.Proofs.Json.Token

namespace Zpl.Json

mutual

-- A text without the blanks that are not in quotes.
def unspaced : List Char → List Char
  | []      => []
  | c :: cs =>
    if isBlank c then
      unspaced cs
    else if c = '"' then
      c :: unspacedFromQuote cs
    else
      c :: unspaced cs

-- The same behind a quote that has been opened. A quote after a backslash does not close it.
def unspacedFromQuote : List Char → List Char
  | []              => []
  | '\\' :: c :: cs => '\\' :: c :: unspacedFromQuote cs
  | c :: cs         => if c = '"' then c :: unspaced cs else c :: unspacedFromQuote cs

end

def Mark.char : Mark → Char
  | beginArray     => '['
  | endArray       => ']'
  | beginObject    => '{'
  | endObject      => '}'
  | nameSeparator  => ':'
  | valueSeparator => ','

def Token.chars : Token → List Char
  | mark m      => [m.char]
  | word cs     => cs
  | quoted body => '"' :: body ++ ['"']

variable (cs : List Char)

theorem unspaced_blank (h : isBlank c) : unspaced (c :: cs) = unspaced cs := by
  simp [unspaced, h]

theorem unspaced_mark (h : Mark.ofChar? c = some m) :
    unspaced (c :: cs) = m.char :: unspaced cs := by
  unfold Mark.ofChar? at h
  split at h
  case h_7 => contradiction
  all_goals
    cases h
    simp [unspaced, isBlank, Mark.char]

theorem unspaced_word (h : ∀ c ∈ w, isWordChar c) : unspaced (w ++ cs) = w ++ unspaced cs := by
  induction w
  case nil => rfl
  case cons c w hi =>
    have ⟨hc, hw⟩ := List.forall_mem_cons.mp h
    simp only [isWordChar, Bool.and_eq_true, Bool.not_eq_true', bne_iff_ne] at hc
    simp [unspaced, hc, hi hw]

theorem unspacedFromQuote_closed (h : Closed body) :
    unspacedFromQuote (body ++ '"' :: cs) = body ++ '"' :: unspaced cs := by
  induction h
  case nil              => simp [unspacedFromQuote]
  case plain hq hb _ hi => simp [unspacedFromQuote, hq, hb, hi]
  case pair hi          => simp [unspacedFromQuote, hi]

theorem unspaced_quoted (h : Closed body) :
    unspaced ('"' :: body ++ '"' :: cs) = '"' :: body ++ '"' :: unspaced cs := by
  simp [unspaced, isBlank, unspacedFromQuote_closed cs h]

theorem Spells.unspaced_eq {cs : List Char} (h : Spells cs ts) :
    unspaced cs = ts.flatMap Token.chars := by
  induction h
  case nil              => rfl
  case blank hb _ hi    => rw [unspaced_blank _ hb, hi]
  case mark hm _ hi     => rw [unspaced_mark _ hm, hi]; rfl
  case word hw _ _ hi   => rw [unspaced_word _ hw, hi]; rfl
  case quoted hb _ hi   => rw [unspaced_quoted _ hb, hi]; simp [Token.chars]

theorem commaBefore_eq (rest : List α) :
    commaBefore rest = (separatorBefore rest).flatMap Token.chars := by
  cases rest <;> rfl

theorem stringChars_eq (s : String) : stringChars s = (quotedToken s).chars :=
  rfl

mutual

theorem compactChars_eq (j : Json) : j.compactChars = j.tokens.flatMap Token.chars := by
  match j with
  | .null | .bool _ | .int _ | .str _ => exact (List.append_nil _).symm
  | .arr items  => simp [compactChars, tokens, compactItems_eq items, Token.chars, Mark.char]
  | .obj fields => simp [compactChars, tokens, compactFields_eq fields, Token.chars, Mark.char]

theorem compactItems_eq (items : List Json) :
    compactItems items = (itemTokens items).flatMap Token.chars := by
  match items with
  | []           => rfl
  | item :: rest =>
    simp [compactItems, itemTokens, compactChars_eq item, commaBefore_eq, compactItems_eq rest]

theorem compactFields_eq (fields : List (String × Json)) :
    compactFields fields = (fieldTokens fields).flatMap Token.chars := by
  match fields with
  | []                   => rfl
  | (key, value) :: rest =>
    simp [compactFields, fieldTokens, stringChars_eq, compactChars_eq value, commaBefore_eq,
      compactFields_eq rest, Token.chars, Mark.char]

end

theorem unspaced_pretty (j : Json) : unspaced j.pretty.toList = j.compact.toList := by
  have hp : unspaced (j.prettyChars 0) = j.tokens.flatMap Token.chars :=
    (spells_pretty 0 j).unspaced_eq
  rw [pretty, compact, String.toList_ofList, String.toList_ofList, hp, compactChars_eq]

end Zpl.Json
