import Zpl.Proofs.Text.Number
import Zpl.Text.Quoted

namespace Zpl.Text

def ofLetter? : Char → Option Char
  | '"'  => some '"'
  | '\\' => some '\\'
  | 'n'  => some '\n'
  | 'r'  => some '\r'
  | 't'  => some '\t'
  | '0'  => some '\x00'
  | _    => none

def first? : List Char → Option Char
  | '\\' :: 'u' :: '{' :: cs => (hex? (cs.takeWhile (· != '}'))).map Char.ofNat
  | '\\' :: c :: _           => ofLetter? c
  | cs                       => cs.head?

theorem digitChar_ne_brace : ∀ d < 16, Nat.digitChar d ≠ '}' := by
  decide

theorem brace_not_mem_toDigits (n : Nat) : '}' ∉ Nat.toDigits 16 n := by
  induction n using Nat.base_induction 16 (by decide)
  case single m hm =>
    rw [Nat.toDigits_of_lt_base hm, List.mem_singleton]
    exact (digitChar_ne_brace m hm).symm
  case digit m k hk hm hi =>
    rw [←Nat.toDigits_append_toDigits (by decide) hm hk, Nat.toDigits_of_lt_base hk,
      List.mem_append, List.mem_singleton]
    exact not_or_intro hi (digitChar_ne_brace k hk).symm

theorem takeWhile_toDigits (n : Nat) (cs : List Char) :
    (Nat.toDigits 16 n ++ '}' :: cs).takeWhile (· != '}') = Nat.toDigits 16 n := by
  rw [List.takeWhile_append_of_pos, List.takeWhile_cons_of_neg (by simp), List.append_nil]
  intro c hc
  exact bne_iff_ne.mpr fun he => brace_not_mem_toDigits n (he ▸ hc)

theorem first?_cons (h : c ≠ '\\') (cs : List Char) : first? (c :: cs) = some c := by
  rw [first?.eq_def]
  split <;> simp_all

theorem first?_hexEscape (c : Char) (cs : List Char) : first? (hexEscape c ++ cs) = some c := by
  have h : hexEscape c ++ cs = '\\' :: 'u' :: '{' :: (Nat.toDigits 16 c.toNat ++ '}' :: cs) := by
    simp [hexEscape]
  rw [h, first?, takeWhile_toDigits, hex?_toDigits, Option.map_some, Char.ofNat_toNat]

theorem first?_escape (c : Char) (cs : List Char) : first? (escape c ++ cs) = some c := by
  rw [escape.eq_def]
  split
  case h_7 hb _ _ _ _ =>
    split
    case isTrue  => exact first?_cons hb cs
    case isFalse => exact first?_hexEscape c cs
  all_goals rfl

theorem first?_flatMap_escape (cs : List Char) : first? (cs.flatMap escape) = cs.head? := by
  cases cs
  case nil       => rfl
  case cons c cs => rw [List.flatMap_cons, first?_escape, List.head?_cons]

theorem eq_of_flatMap_escape_eq {cs cs' : List Char}
    (h : cs.flatMap escape = cs'.flatMap escape) : cs = cs' := by
  induction cs generalizing cs'
  all_goals
    have hh := first?_flatMap_escape cs'
    rw [←h, first?_flatMap_escape] at hh
  case nil => exact (List.head?_eq_none_iff.mp hh.symm).symm
  case cons c cs hi =>
    obtain ⟨cs', rfl⟩ := List.head?_eq_some_iff.mp hh.symm
    rw [hi <| by simpa using h]

theorem quoted_injective : Function.Injective quoted := by
  intro s t h
  have h : s.toList.flatMap escape = t.toList.flatMap escape := by
    simpa [quoted, String.ofList_inj] using h
  exact String.toList_inj.mp <| eq_of_flatMap_escape_eq h

end Zpl.Text
