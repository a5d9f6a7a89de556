import Zpl.Proofs.Json.Grammar

namespace Zpl.Json

open Text (hex?)

-- The numbers of the characters between two quotes, where an escape may give half a character.
def units? : List Char → Option (List Nat)
  | [] => some []
  | '\\' :: 'u' :: a :: b :: c :: d :: cs => do
    let n ← hex? [a, b, c, d]
    let ns ← units? cs
    return n :: ns
  | '\\' :: e :: cs => do
    let c ← unescape? e
    let ns ← units? cs
    return c.toNat :: ns
  | c :: cs =>
    if c = '"' ∨ c = '\\' ∨ c.toNat < 0x20 then
      none
    else
      (units? cs).map (c.toNat :: ·)

def chars? : List Nat → Option (List Char)
  | []      => some []
  | n :: ns =>
    if n.isValidChar then
      (chars? ns).map (Char.ofNat n :: ·)
    else
      match ns with
      | [] => none
      | m :: ns =>
        if 0xd800 ≤ n ∧ n < 0xdc00 ∧ 0xdc00 ≤ m ∧ m < 0xe000 then
          (chars? ns).map (Char.ofNat (0x10000 + (n - 0xd800) * 0x400 + (m - 0xdc00)) :: ·)
        else
          none

def unquote? (body : List Char) : Option String :=
  ((units? body).bind chars?).map String.ofList

-- An array or object that is open, with what has been read of it, the last item first.
inductive Frame where
  | arr (items : List Json)
  | obj (fields : List (String × Json)) (key : String)

inductive Reader where
  | value (outer : List Frame)
  | key (fields : List (String × Json)) (outer : List Frame)
  | colon (fields : List (String × Json)) (key : String) (outer : List Frame)
  | more (value : Json) (outer : List Frame)

namespace Reader

def step? : Reader → Token → Option Reader
  -- A container ends before its first item or after an item, but not after a comma.
  | value (.arr [] :: outer), .mark .endArray => some (more (.arr []) outer)
  | value outer, .mark .beginArray => some (value (.arr [] :: outer))
  | value outer, .mark .beginObject => some (key [] outer)
  | value outer, .word w => (ofWord? w).map fun j => more j outer
  | value outer, .quoted body => (unquote? body).map fun s => more (.str s) outer
  | key [] outer, .mark .endObject => some (more (.obj []) outer)
  | key fields outer, .quoted body => (unquote? body).map fun k => colon fields k outer
  | colon fields k outer, .mark .nameSeparator => some (value (.obj fields k :: outer))
  | more j (.arr items :: outer), .mark .valueSeparator => some (value (.arr (j :: items) :: outer))
  | more j (.arr items :: outer), .mark .endArray => some (more (.arr (j :: items).reverse) outer)
  | more j (.obj fields k :: outer), .mark .valueSeparator => some (key ((k, j) :: fields) outer)
  | more j (.obj fields k :: outer), .mark .endObject =>
    some (more (.obj ((k, j) :: fields).reverse) outer)
  | _, _ => none

def result? : Reader → Option Json
  | more j [] => some j
  | _         => none

def Reads (r : Reader) (ts : List Token) (r' : Reader) : Prop :=
  ts.foldlM step? r = some r'

theorem Reads.nil (r : Reader) : Reads r [] r :=
  rfl

theorem Reads.cons (h : r.step? t = some r') (h' : Reads r' ts r'') : Reads r (t :: ts) r'' := by
  simpa [Reads, h] using h'

theorem Reads.append (h : Reads r ts r') (h' : Reads r' ts' r'') : Reads r (ts ++ ts') r'' := by
  rw [Reads] at h h'
  simp [Reads, List.foldlM_append, h, h']

end Reader

def read? (text : String) : Option Json := do
  let ts ← tokens? text.toList
  let r ← ts.foldlM Reader.step? (.value [])
  r.result?

theorem units?_plain (hq : c ≠ '"') (hb : c ≠ '\\') (hc : ¬c.toNat < 0x20) (cs : List Char) :
    units? (c :: cs) = (units? cs).map (c.toNat :: ·) := by
  rw [units?.eq_def]
  split
  case h_4 h => cases h; simp [hq, hb, hc]
  all_goals simp_all

theorem units?_letter (h : unescape? c = some x) (cs : List Char) :
    units? ('\\' :: c :: cs) = (units? cs).map (x.toNat :: ·) := by
  rw [units?.eq_def]
  split
  case h_1 => contradiction
  case h_2 he =>
    cases he
    simp [unescape?] at h
  case h_3 he =>
    cases he
    cases units? cs <;> simp [h]
  case h_4 hne he =>
    cases he
    exact absurd rfl (hne c cs rfl)

theorem chars?_toNat (x : Char) (ns : List Nat) :
    chars? (x.toNat :: ns) = (chars? ns).map (x :: ·) := by
  have hv : x.toNat.isValidChar := x.valid
  rw [chars?.eq_def]
  simp [hv]

theorem chars?_halves (h : 0xd800 ≤ n ∧ n < 0xdc00 ∧ 0xdc00 ≤ m ∧ m < 0xe000) {x : Char}
    (hx : x.toNat = 0x10000 + (n - 0xd800) * 0x400 + (m - 0xdc00)) (ns : List Nat) :
    chars? (n :: m :: ns) = (chars? ns).map (x :: ·) := by
  have hv : ¬n.isValidChar := by simp only [Nat.isValidChar]; omega
  rw [chars?.eq_def]
  simp [hv, h, ←hx]

theorem Quotes.exists_units (h : Quotes body xs) :
    ∃ ns, units? body = some ns ∧ chars? ns = some xs := by
  induction h
  case nil => exact ⟨[], rfl, rfl⟩
  case plain x _ _ hq hb hc _ hi =>
    have ⟨ns, hu, hs⟩ := hi
    exact ⟨x.toNat :: ns, by simp [units?_plain hq hb hc, hu], by simp [chars?_toNat, hs]⟩
  case letter x _ _ hx _ hi =>
    have ⟨ns, hu, hs⟩ := hi
    exact ⟨x.toNat :: ns, by simp [units?_letter hx, hu], by simp [chars?_toNat, hs]⟩
  case number x hx _ hi =>
    have ⟨ns, hu, hs⟩ := hi
    exact ⟨x.toNat :: ns, by simp [units?, hx, hu], by simp [chars?_toNat, hs]⟩
  case halves n _ _ _ _ m _ _ x hn hm hr hx _ hi =>
    have ⟨ns, hu, hs⟩ := hi
    exact ⟨n :: m :: ns, by simp [units?, hn, hm, hu], by simp [chars?_halves hr hx, hs]⟩

theorem Quotes.unquote?_eq {s : String} (h : Quotes body s.toList) : unquote? body = some s := by
  have ⟨ns, hu, hs⟩ := h.exists_units
  simp [unquote?, hu, hs]

namespace Reader

theorem reads_word (h : ofWord? w = some j) (outer : List Frame) :
    Reads (value outer) [.word w] (more j outer) := by
  simp [Reads, step?, h]

theorem reads_quoted (h : unquote? body = some s) (outer : List Frame) :
    Reads (value outer) [.quoted body] (more (.str s) outer) := by
  simp [Reads, step?, h]

theorem step?_key (h : unquote? body = some k) (fields : List (String × Json))
    (outer : List Frame) :
    (key fields outer).step? (.quoted body) = some (colon fields k outer) := by
  cases fields
  all_goals simp [step?, h]

theorem step?_beginArray (outer : List Frame) :
    (value outer).step? (.mark .beginArray) = some (value (.arr [] :: outer)) := by
  simp [step?]

theorem step?_beginObject (outer : List Frame) :
    (value outer).step? (.mark .beginObject) = some (key [] outer) := by
  simp [step?]

end Reader

theorem DerivesItems.tokens_eq_nil (h : DerivesItems ts []) : ts = [] := by
  cases h
  rfl

theorem DerivesFields.tokens_eq_nil (h : DerivesFields ts []) : ts = [] := by
  cases h
  rfl

open Reader

mutual

theorem Derives.reads (h : Derives ts j) (outer : List Frame) :
    Reads (value outer) ts (more j outer) := by
  match h with
  | .word h   => exact reads_word h outer
  | .quoted h => exact reads_quoted h.unquote?_eq outer
  | .arr h    => exact .cons (step?_beginArray outer) <| h.reads [] outer fun _ => rfl
  | .obj h    => exact .cons (step?_beginObject outer) <| h.reads [] outer fun _ => rfl

-- After a comma there is an item, so that nothing is left only when nothing has been read.
theorem DerivesItems.reads (h : DerivesItems ts items) (read : List Json) (outer : List Frame)
    (hr : items = [] → read = []) :
    Reads (value (.arr read :: outer)) (ts ++ [.mark .endArray])
      (more (.arr (read.reverse ++ items)) outer) := by
  match h with
  | .nil =>
    rw [hr rfl]
    exact .cons (by rfl) <| .nil _
  | @DerivesItems.cons _ item ts' rest hi ht =>
    have hv := hi.reads (.arr read :: outer)
    have ht := ht.reads (item :: read) outer
    have hm : Reads (more item (.arr read :: outer))
        (separatorBefore rest ++ (ts' ++ [.mark .endArray]))
        (more (.arr (read.reverse ++ item :: rest)) outer) := by
      cases rest
      case nil  =>
        rw [‹DerivesItems ts' []›.tokens_eq_nil]
        exact .cons (by simp [step?]) <| .nil _
      case cons => exact .cons rfl <| by simpa using ht nofun
    simpa using hv.append hm

theorem DerivesFields.reads (h : DerivesFields ts fields) (read : List (String × Json))
    (outer : List Frame) (hr : fields = [] → read = []) :
    Reads (key read outer) (ts ++ [.mark .endObject])
      (more (.obj (read.reverse ++ fields)) outer) := by
  match h with
  | .nil =>
    rw [hr rfl]
    exact .cons (by rfl) <| .nil _
  | @DerivesFields.cons _ _ v ts' rest k hk hi ht =>
    have hv := hi.reads (.obj read k :: outer)
    have ht := ht.reads ((k, v) :: read) outer
    have hm : Reads (more v (.obj read k :: outer))
        (separatorBefore rest ++ (ts' ++ [.mark .endObject]))
        (more (.obj (read.reverse ++ (k, v) :: rest)) outer) := by
      cases rest
      case nil  =>
        rw [‹DerivesFields ts' []›.tokens_eq_nil]
        exact .cons (by simp [step?]) <| .nil _
      case cons => exact .cons rfl <| by simpa using ht nofun
    have hs : (colon read k outer).step? (.mark .nameSeparator) = some _ := rfl
    simpa using .cons (step?_key hk.unquote?_eq read outer) <| .cons hs <| hv.append hm

end

theorem Denotes.read?_eq (h : Denotes text j) : read? text = some j := by
  have ⟨ts, hs, hd⟩ := h
  have hr : ts.foldlM Reader.step? (.value []) = some (.more j []) := hd.reads []
  simp [read?, hs.tokens?_eq, hr, Reader.result?]

theorem Denotes.unique (h : Denotes text j) (h' : Denotes text j') : j = j' :=
  Option.some.inj <| h.read?_eq.symm.trans h'.read?_eq

theorem eq_of_compact_eq {j j' : Json} (h : j.compact = j'.compact) : j = j' :=
  (denotes_compact j).unique <| h ▸ denotes_compact j'

theorem eq_of_pretty_eq {j j' : Json} (h : j.pretty = j'.pretty) : j = j' :=
  (denotes_pretty j).unique <| h ▸ denotes_pretty j'

end Zpl.Json
