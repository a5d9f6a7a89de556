import Zpl.Proofs.Text.Bare

namespace Zpl.Text

-- Whole numbers without a sign. A leading zero stands alone.
def nat? (w : List Char) : Option Nat :=
  if w = ['0'] ∨ w ≠ [] ∧ w.head? ≠ some '0' ∧ w.all Char.isDigit then
    some (Nat.ofDigitChars 10 w 0)
  else
    none

def int? : List Char → Option Int
  | '-' :: w => (nat? w).map fun n => -n
  | w        => (nat? w).map Int.ofNat

def hexDigit? (c : Char) : Option Nat :=
  (List.range 16).find? fun d => Nat.digitChar d == c.toLower

def hex? (cs : List Char) : Option Nat :=
  cs.foldlM (fun n c => (hexDigit? c).map (16 * n + ·)) 0

theorem hexDigit?_digitChar : ∀ d < 16, hexDigit? (Nat.digitChar d) = some d := by
  decide

theorem hex?_control {n : Nat} (h : n < 0x20) :
    hex? ['0', '0', Nat.digitChar (n / 16), Nat.digitChar (n % 16)] = some n := by
  have h0 : hexDigit? '0' = some 0 := hexDigit?_digitChar 0 (by decide)
  have hd := hexDigit?_digitChar (n / 16) (by omega)
  have hm := hexDigit?_digitChar (n % 16) (by omega)
  simp [hex?, h0, hd, hm]
  omega

theorem hex?_append_singleton (cs : List Char) (c : Char) :
    hex? (cs ++ [c]) = (hex? cs).bind fun n => (hexDigit? c).map (16 * n + ·) := by
  simp [hex?, List.foldlM_append]

theorem hex?_toDigits (n : Nat) : hex? (Nat.toDigits 16 n) = some n := by
  induction n using Nat.base_induction 16 (by decide)
  case single m hm =>
    rw [Nat.toDigits_of_lt_base hm]
    simp [hex?, hexDigit?_digitChar m hm]
  case digit m k hk hm hi =>
    rw [←Nat.toDigits_append_toDigits (by decide) hm hk, Nat.toDigits_of_lt_base hk,
      hex?_append_singleton, hi]
    simp [hexDigit?_digitChar k hk]

theorem digitChar_ne_zero : ∀ d < 10, 0 < d → Nat.digitChar d ≠ '0' := by
  decide

theorem head?_toDigits {n : Nat} (h : 0 < n) : (Nat.toDigits 10 n).head? ≠ some '0' := by
  induction n using Nat.strongRecOn
  case ind n hi =>
    rw [Nat.toDigits_eq_if (by decide)]
    split
    case isTrue hn  => simpa using digitChar_ne_zero n hn h
    case isFalse hn =>
      have hd := hi (n / 10) (by omega) (by omega)
      cases ht : Nat.toDigits 10 (n / 10)
      case nil  => exact absurd ht Nat.toDigits_ne_nil
      case cons => rwa [ht] at hd

theorem isDigit_of_mem_toDigits {n : Nat} : ∀ c ∈ Nat.toDigits 10 n, c.isDigit :=
  fun _ h => Nat.isDigit_of_mem_toDigits (by decide) (by decide) h

theorem nat?_repr (n : Nat) : nat? n.repr.toList = some n := by
  rw [Nat.toList_repr, nat?, Nat.ofDigitChars_toDigits (by decide) (by decide), if_pos]
  cases n
  case zero   => exact .inl rfl
  case succ n =>
    have hd := List.all_eq_true.mpr <| isDigit_of_mem_toDigits (n := n + 1)
    exact .inr ⟨Nat.toDigits_ne_nil, head?_toDigits n.succ_pos, hd⟩

theorem int?_toString (n : Int) : int? (toString n).toList = some n := by
  cases n
  case negSucc n =>
    rw [toList_toString_negSucc, int?, nat?_repr]
    rfl
  case ofNat n =>
    have hn : toString (Int.ofNat n) = n.repr := rfl
    rw [hn, int?.eq_def]
    split
    case h_1 h =>
      have hm : '-' ∈ Nat.toDigits 10 n := by rw [←Nat.toList_repr, h]; exact .head _
      simpa using isDigit_of_mem_toDigits _ hm
    case h_2 => rw [nat?_repr]; rfl

theorem toList_toString_injective : Function.Injective fun n : Int => (toString n).toList := by
  intro n m h
  have h : (toString n).toList = (toString m).toList := h
  apply Option.some.inj
  rw [←int?_toString, h, int?_toString]

end Zpl.Text
