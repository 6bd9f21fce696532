/-!
Classes of characters given as ranges of code points, ends included. The
tables that use them hold the properties of Unicode 17.
-/
namespace DocSql.Text

abbrev Ranges := List (Nat × Nat)

def Ranges.contains (ranges : Ranges) (c : Char) : Bool :=
  ranges.any fun range => range.1 ≤ c.toNat && c.toNat ≤ range.2

end DocSql.Text
