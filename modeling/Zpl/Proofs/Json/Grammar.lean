import Zpl.Proofs.Json.Token
import Zpl.Proofs.Text.Number

namespace Zpl.Json

open Text (int? int?_toString hex? hex?_control)

def ofWord? (w : List Char) : Option Json :=
  if w = "null".toList then
    some .null
  else if w = "true".toList then
    some (.bool true)
  else if w = "false".toList then
    some (.bool false)
  else
    (int? w).map .int

def unescape? : Char → Option Char
  | '"'  => some '"'
  | '\\' => some '\\'
  | '/'  => some '/'
  | 'b'  => some '\x08'
  | 'f'  => some '\x0c'
  | 'n'  => some '\n'
  | 'r'  => some '\r'
  | 't'  => some '\t'
  | _    => none

-- What may stand between two quotes for characters: they themselves, unless they have to be
-- escaped, a letter after a backslash, or the number of the character or of its two halves.
inductive Quotes : List Char → List Char → Prop
  | nil    : Quotes [] []
  | plain  : x ≠ '"' → x ≠ '\\' → ¬x.toNat < 0x20 → Quotes body xs → Quotes (x :: body) (x :: xs)
  | letter : unescape? c = some x → Quotes body xs → Quotes ('\\' :: c :: body) (x :: xs)
  | number : hex? [a, b, c, d] = some x.toNat → Quotes body xs →
      Quotes ('\\' :: 'u' :: a :: b :: c :: d :: body) (x :: xs)
  | halves : hex? [a, b, c, d] = some n → hex? [a', b', c', d'] = some m →
      0xd800 ≤ n ∧ n < 0xdc00 ∧ 0xdc00 ≤ m ∧ m < 0xe000 →
      x.toNat = 0x10000 + (n - 0xd800) * 0x400 + (m - 0xdc00) → Quotes body xs →
      Quotes ('\\' :: 'u' :: a :: b :: c :: d :: '\\' :: 'u' :: a' :: b' :: c' :: d' :: body)
        (x :: xs)

mutual

inductive Derives : List Token → Json → Prop
  | word   : ofWord? w = some j → Derives [.word w] j
  | quoted : Quotes body s.toList → Derives [.quoted body] (.str s)
  | arr    : DerivesItems ts items →
      Derives (.mark .beginArray :: ts ++ [.mark .endArray]) (.arr items)
  | obj    : DerivesFields ts fields →
      Derives (.mark .beginObject :: ts ++ [.mark .endObject]) (.obj fields)

inductive DerivesItems : List Token → List Json → Prop
  | nil  : DerivesItems [] []
  | cons : Derives ts item → DerivesItems ts' rest →
      DerivesItems (ts ++ separatorBefore rest ++ ts') (item :: rest)

inductive DerivesFields : List Token → List (String × Json) → Prop
  | nil  : DerivesFields [] []
  | cons : Quotes body key.toList → Derives ts value → DerivesFields ts' rest →
      DerivesFields (.quoted body :: .mark .nameSeparator :: ts ++ separatorBefore rest ++ ts')
        ((key, value) :: rest)

end

def Denotes (text : String) (j : Json) : Prop :=
  ∃ ts, Spells text.toList ts ∧ Derives ts j

theorem ofWord?_toString (n : Int) : ofWord? (toString n).toList = some (.int n) := by
  have hw (w : List Char) (h : int? w = none) : (toString n).toList ≠ w := by
    rintro rfl
    rw [int?_toString] at h
    contradiction
  rw [ofWord?, if_neg (hw _ rfl), if_neg (hw _ rfl), if_neg (hw _ rfl), int?_toString]
  rfl

theorem ofWord?_boolChars (b : Bool) : ofWord? (boolChars b) = some (.bool b) := by
  cases b
  case false => rfl
  case true  => rfl

theorem quotes_escape (x : Char) (h : Quotes body xs) : Quotes (escape x ++ body) (x :: xs) := by
  unfold escape
  split
  case h_8 hq hb _ _ _ _ _ =>
    split
    case isTrue hc  => exact .number (hex?_control hc) h
    case isFalse hc => exact .plain hq hb hc h
  all_goals exact .letter rfl h

theorem quotes_flatMap_escape (xs : List Char) : Quotes (xs.flatMap escape) xs := by
  induction xs
  case nil          => exact .nil
  case cons x xs hi => exact quotes_escape x hi

mutual

theorem derives_tokens (j : Json) : Derives j.tokens j := by
  match j with
  | .null       => exact .word rfl
  | .bool b     => exact .word <| ofWord?_boolChars b
  | .int n      => exact .word <| ofWord?_toString n
  | .str s      => exact .quoted <| quotes_flatMap_escape s.toList
  | .arr items  => exact .arr <| derives_itemTokens items
  | .obj fields => exact .obj <| derives_fieldTokens fields

theorem derives_itemTokens (items : List Json) : DerivesItems (itemTokens items) items := by
  match items with
  | []           => exact .nil
  | item :: rest => exact .cons (derives_tokens item) (derives_itemTokens rest)

theorem derives_fieldTokens (fields : List (String × Json)) :
    DerivesFields (fieldTokens fields) fields := by
  match fields with
  | []                   => exact .nil
  | (key, value) :: rest =>
    exact .cons (quotes_flatMap_escape key.toList) (derives_tokens value) (derives_fieldTokens rest)

end

theorem denotes_compact (j : Json) : Denotes j.compact j :=
  ⟨j.tokens, by simpa [compact] using spells_compact j, derives_tokens j⟩

theorem denotes_pretty (j : Json) : Denotes j.pretty j :=
  ⟨j.tokens, by simpa [pretty] using spells_pretty 0 j, derives_tokens j⟩

end Zpl.Json
