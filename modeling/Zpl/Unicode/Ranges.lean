namespace Zpl.Unicode

-- A set of code points as closed ranges, ascending and apart.
abbrev Ranges := List (Nat × Nat)

def Ranges.contains (rs : Ranges) (c : Char) : Bool :=
  rs.any fun (first, last) => first ≤ c.toNat && c.toNat ≤ last

end Zpl.Unicode
