import Mathlib.Data.List.SplitBy
import Mathlib.Data.List.TakeWhile

namespace Zpl.Text

variable [DecidableEq α] {sep : α}

def pieces (sep : α) : Nat → List α → List (List α)
  | 0, _     => []
  | 1, l     => [l]
  | n + 2, l =>
    match l.dropWhile (· ≠ sep) with
    | []     => [l]
    | _ :: r => l.takeWhile (· ≠ sep) :: pieces sep (n + 1) r

theorem pieces_of_not_mem (h : sep ∉ l) (n : Nat) : pieces sep (n + 1) l = [l] := by
  cases n
  case zero => rfl
  case succ n =>
    have hd : l.dropWhile (· ≠ sep) = [] := by
      rw [List.dropWhile_eq_nil_iff]
      intro a ha
      exact decide_eq_true fun he => h (he ▸ ha)
    simp only [pieces, hd]

theorem pieces_append_cons (h : sep ∉ l) (n : Nat) (r : List α) :
    pieces sep (n + 2) (l ++ sep :: r) = l :: pieces sep (n + 1) r := by
  have hl : ∀ a ∈ l, decide (a ≠ sep) = true := fun a ha => decide_eq_true fun he => h (he ▸ ha)
  have hd : (l ++ sep :: r).dropWhile (· ≠ sep) = sep :: r := by
    rw [List.dropWhile_append_of_pos hl, List.dropWhile_cons_of_neg (by simp)]
  have ht : (l ++ sep :: r).takeWhile (· ≠ sep) = l := by
    rw [List.takeWhile_append_of_pos hl, List.takeWhile_cons_of_neg (by simp), List.append_nil]
  simp only [pieces, hd, ht]

theorem append_cons_inj_of_not_mem (h : sep ∉ l) (h' : sep ∉ l')
    (he : l ++ sep :: r = l' ++ sep :: r') : l = l' ∧ r = r' := by
  have hp : pieces sep 2 (l ++ sep :: r) = pieces sep 2 (l' ++ sep :: r') := by rw [he]
  rw [pieces_append_cons h, pieces_append_cons h'] at hp
  simpa [pieces] using hp

theorem pieces_intercalate {ls : List (List α)} (hne : ls ≠ []) (hn : ls.length ≤ n)
    (h : ∀ l ∈ ls.dropLast, sep ∉ l) (hl : ls.length < n → ∀ l ∈ ls, sep ∉ l) :
    pieces sep n ([sep].intercalate ls) = ls := by
  induction ls generalizing n
  case nil => contradiction
  case cons l ls hi =>
    match ls, n with
    -- The last of all the pieces is whatever is left, separators and all.
    | [], 1     => simp [pieces]
    | [], n + 2 =>
      have hl' : sep ∉ l := hl (by simp) l List.mem_cons_self
      simpa using pieces_of_not_mem hl' (n + 1)
    | l' :: ls, n + 2 =>
      have hl' : sep ∉ l := h l (by simp)
      have ht := hi (n := n + 1) (by simp) (by simpa using hn)
        (fun a ha => h a <| by simp_all)
        (fun hlt a ha => hl (by simpa using hlt) a <| List.mem_cons_of_mem _ ha)
      rw [List.intercalate_cons_cons, List.append_assoc, List.singleton_append,
        pieces_append_cons hl', ht]

omit [DecidableEq α] in
theorem count_intercalate [BEq α] [LawfulBEq α] {ls : List (List α)} (h : ∀ l ∈ ls, sep ∉ l) :
    ([sep].intercalate ls).count sep = ls.length - 1 := by
  induction ls
  case nil => rfl
  case cons l ls hi =>
    have hl : l.count sep = 0 := List.count_eq_zero.mpr <| h l List.mem_cons_self
    cases ls
    case nil => simpa using hl
    case cons l' ls =>
      have ht := hi fun l hm => h l <| List.mem_cons_of_mem _ hm
      simp only [List.intercalate_cons_cons, List.count_append, hl, ht]
      simp [Nat.add_comm]

omit [DecidableEq α] in
theorem not_mem_intercalate {a : α} {ls : List (List α)} (hs : a ≠ sep) (h : ∀ l ∈ ls, a ∉ l) :
    a ∉ [sep].intercalate ls := by
  induction ls
  case nil => simp
  case cons l ls hi =>
    have hl : a ∉ l := h l List.mem_cons_self
    cases ls
    case nil => simpa using hl
    case cons l' ls =>
      have ht := hi fun l hm => h l <| List.mem_cons_of_mem _ hm
      simp only [List.intercalate_cons_cons, List.mem_append, List.mem_singleton, not_or]
      exact ⟨⟨hl, hs⟩, ht⟩

-- A separator is stray, at an end or behind another, only where a piece is empty.
omit [DecidableEq α] in
theorem head?_intercalate_ne {ls : List (List α)} (h : ∀ l ∈ ls, sep ∉ l)
    (hne : ∀ l ∈ ls.dropLast, l ≠ []) : ([sep].intercalate ls).head? ≠ some sep := by
  match ls with
  | [] => simp
  | [l] =>
    intro hs
    have hl : sep ∉ l := h l List.mem_cons_self
    rw [List.intercalate_singleton] at hs
    exact hl <| List.mem_of_head? hs
  | l :: l' :: ls =>
    intro hs
    have hl : sep ∉ l := h l List.mem_cons_self
    have hn : l ≠ [] := hne l <| by simp
    rw [List.intercalate_cons_cons, List.append_assoc, List.head?_append_of_ne_nil _ hn] at hs
    exact hl <| List.mem_of_head? hs

omit [DecidableEq α] in
theorem not_infix_intercalate {ls : List (List α)} (h : ∀ l ∈ ls, sep ∉ l)
    (hne : ∀ l ∈ ls.dropLast, l ≠ []) : ¬[sep, sep] <:+: [sep].intercalate ls := by
  -- Of two neighbours in the text one is no separator, also where two pieces meet.
  suffices hc : ([sep].intercalate ls).IsChain fun a b => a = sep → b ≠ sep from
    fun hi => List.isChain_pair.mp ( List.IsChain.infix hc hi) rfl rfl
  induction ls
  case nil => exact .nil
  case cons l ls hi =>
    have hl : sep ∉ l := h l List.mem_cons_self
    have hc : l.IsChain fun a b => a = sep → b ≠ sep := by
      apply List.Pairwise.isChain
      exact List.pairwise_of_forall_mem_list fun a ha _ _ he => absurd (he ▸ ha) hl
    cases ls
    case nil => simpa using hc
    case cons l' ls =>
      have ht : ∀ l ∈ l' :: ls, sep ∉ l := fun a ha => h a <| List.mem_cons_of_mem _ ha
      have htne : ∀ l ∈ (l' :: ls).dropLast, l ≠ [] :=
        fun a ha => hne a <| List.mem_cons_of_mem _ ha
      rw [List.intercalate_cons_cons, List.append_assoc, List.singleton_append]
      refine hc.append ((hi ht htne).cons fun a ha _ he => ?_) fun a ha _ _ he => ?_
      · exact head?_intercalate_ne ht htne <| he ▸ ha
      · exact absurd (List.mem_of_getLast? ha) <| he ▸ hl

omit [DecidableEq α] in
theorem getLast?_intercalate_eq_iff {ls : List (List α)} (h : ∀ l ∈ ls, sep ∉ l) :
    ([sep].intercalate ls).getLast? = some sep ↔ ls.length ≠ 1 ∧ ls.getLast? = some [] := by
  induction ls
  case nil => simp
  case cons l ls hi =>
    have hl : sep ∉ l := h l List.mem_cons_self
    have hi := hi fun l hm => h l <| List.mem_cons_of_mem _ hm
    match ls with
    | [] => simpa using fun hs => hl <| List.mem_of_getLast? hs
    | [l'] => cases l' <;> simp_all
    | l' :: l'' :: ls =>
      have hr : [sep].intercalate (l' :: l'' :: ls) ≠ [] := by simp
      rw [List.intercalate_cons_cons, List.getLast?_append_of_ne_nil _ hr, hi]
      simp

variable {leader : α}

def cutBefore (leader : α) (l : List α) : List (List α) :=
  l.splitBy fun _ a => a ≠ leader

def IsLed (leader : α) (l : List α) : Prop :=
  ∃ r, l = leader :: r ∧ leader ∉ r

omit [DecidableEq α] in
theorem IsLed.append {l : List α} (hl : IsLed leader l) (hr : leader ∉ r) :
    IsLed leader (l ++ r) := by
  obtain ⟨l, rfl, hl⟩ := hl
  exact ⟨l ++ r, rfl, List.not_mem_append hl hr⟩

theorem cutBefore_flatten {ls : List (List α)} (h : ∀ l ∈ ls, IsLed leader l) :
    cutBefore leader ls.flatten = ls := by
  apply List.splitBy_flatten
  case hn =>
    intro hm
    have ⟨_, he, _⟩ := h [] hm
    contradiction
  case hc =>
    intro l hm
    obtain ⟨r, rfl, hr⟩ := h l hm
    -- Whatever comes before it, only a leader is cut off.
    have hp : (leader :: r).Pairwise fun _ a => a ≠ leader := by
      refine List.pairwise_cons.mpr ⟨fun a ha he => hr (he ▸ ha), ?_⟩
      exact List.pairwise_of_forall_mem_list fun _ _ a ha he => hr (he ▸ ha)
    simpa using hp.isChain
  case hc' =>
    apply List.Pairwise.isChain
    apply List.pairwise_of_forall_mem_list
    intro l hl l' hl'
    obtain ⟨r, rfl, _⟩ := h l hl
    obtain ⟨r', rfl, _⟩ := h l' hl'
    exact ⟨by simp, by simp, by simp⟩

-- Pieces that each have one leader, in front, are told apart in what they are joined to.
theorem flatten_inj_of_isLed {ls ls' : List (List α)} (h : ∀ l ∈ ls, IsLed leader l)
    (h' : ∀ l ∈ ls', IsLed leader l) (he : ls.flatten = ls'.flatten) : ls = ls' := by
  rw [←cutBefore_flatten h, he, cutBefore_flatten h']

def ended (sep : α) (ls : List (List α)) : List α :=
  ls.flatMap (· ++ [sep])

omit [DecidableEq α] in
@[simp]
theorem ended_nil (sep : α) : ended sep [] = [] :=
  rfl

omit [DecidableEq α] in
@[simp]
theorem ended_cons (sep : α) (l : List α) (ls : List (List α)) :
    ended sep (l :: ls) = l ++ sep :: ended sep ls := by
  simp [ended]

theorem splitOn_ended {ls : List (List α)} (h : ∀ l ∈ ls, sep ∉ l) :
    (ended sep ls).splitOn sep = ls ++ [[]] := by
  induction ls
  case nil => simp
  case cons l ls hi =>
    have ⟨hl, hls⟩ := List.forall_mem_cons.mp h
    rw [ended_cons, List.splitOn_append_cons_self_of_not_mem hl, hi hls, List.cons_append]

theorem splitOn_flatMap_cons {ls : List (List α)} (h : ∀ l ∈ ls, sep ∉ l) :
    (ls.flatMap (sep :: ·)).splitOn sep = [] :: ls := by
  -- The induction is on the pieces behind the first, whatever that is.
  suffices hs : ∀ l, sep ∉ l → (l ++ ls.flatMap (sep :: ·)).splitOn sep = l :: ls from
    hs [] List.not_mem_nil
  induction ls
  case nil => exact fun l hl => by simpa using List.splitOn_eq_singleton hl
  case cons l' ls hi =>
    have ⟨hl', hls⟩ := List.forall_mem_cons.mp h
    intro l hl
    rw [List.flatMap_cons, List.cons_append, List.splitOn_append_cons_self_of_not_mem hl,
      hi hls l' hl']

theorem filter_ended {ls : List (List α)} (h : ∀ l ∈ ls, sep ∉ l) :
    (ended sep ls).filter (· ≠ sep) = ls.flatten := by
  induction ls
  case nil => rfl
  case cons l ls hi =>
    have ⟨hl, hls⟩ := List.forall_mem_cons.mp h
    have hf : l.filter (· ≠ sep) = l := by
      rw [List.filter_eq_self]
      exact fun a ha => decide_eq_true fun he => hl (he ▸ ha)
    rw [ended_cons, List.filter_append, List.filter_cons_of_neg (by simp), hf, hi hls,
      List.flatten_cons]

theorem ended_inj {ls ls' : List (List α)} (h : ∀ l ∈ ls, sep ∉ l) (h' : ∀ l ∈ ls', sep ∉ l)
    (he : ended sep ls = ended sep ls') : ls = ls' := by
  have hs : ls ++ [[]] = ls' ++ [[]] := by rw [←splitOn_ended h, he, splitOn_ended h']
  exact List.append_cancel_right hs

end Zpl.Text
