namespace Zpl.Text

def isBare (c : Char) : Bool :=
  c.isAlphanum || c == '-'

theorem isBare_of_mem_repr (n : Nat) : ∀ c ∈ n.repr.toList, isBare c := by
  intro c hc
  rw [Nat.toList_repr] at hc
  have hd : c.isDigit := Nat.isDigit_of_mem_toDigits (by decide) (by decide) hc
  simp [isBare, Char.isAlphanum, hd]

theorem toList_toString_negSucc (n : Nat) :
    (toString (Int.negSucc n)).toList = '-' :: (n + 1).repr.toList := by
  have h : toString (Int.negSucc n) = "-" ++ (n + 1).repr := rfl
  rw [h, String.toList_append]
  rfl

theorem isBare_of_mem_toString (n : Int) : ∀ c ∈ (toString n).toList, isBare c := by
  intro c hc
  cases n
  case ofNat n => exact isBare_of_mem_repr n c hc
  case negSucc n =>
    rw [toList_toString_negSucc] at hc
    rcases List.mem_cons.mp hc with rfl | hc
    · rfl
    · exact isBare_of_mem_repr _ c hc

theorem toString_ne_empty (n : Int) : toString n ≠ "" := by
  cases n
  case ofNat n   => exact Nat.repr_ne_empty
  case negSucc n =>
    intro h
    have hl := toList_toString_negSucc n
    simp [h] at hl

end Zpl.Text
