/-!
# Decimal digits

Whole numbers as lists of decimal digits: written plainly, written to a width with zeros in front,
and read.
-/

namespace StationPool.Text.Digits

/-- The decimal digits of a number, without leading zeros. -/
def write (n : Nat) : List Char := Nat.toDigits 10 n

/-- The decimal digits of a number, with zeros in front up to a width. -/
def padded (width n : Nat) : List Char :=
  List.replicate (width - (write n).length) '0' ++ write n

/-- The number that a list of digits writes. -/
def value (ds : List Char) : Nat := ds.foldl (fun n c => n * 10 + (c.toNat - 48)) 0

/-- The number without the zeros it ends with, as digits of a fraction. -/
def trimZeros (ds : List Char) : List Char := (ds.reverse.dropWhile (· == '0')).reverse

end StationPool.Text.Digits
