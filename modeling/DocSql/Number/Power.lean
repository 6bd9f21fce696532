/-!
Powers of the two bases in which numbers are held and written.
-/
namespace DocSql

abbrev pow2 (exponent : Nat) : Nat := Nat.pow 2 exponent

abbrev pow10 (exponent : Nat) : Nat := Nat.pow 10 exponent

end DocSql
