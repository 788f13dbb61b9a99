/-!
# Hexadecimal numerals

A numeral is filled up with zeros to a given width.  Wider numbers keep all their digits.
-/

namespace Bytecode.Text

/-- The `digits`, filled up with zeros on the left to at least `width` of them. -/
def zeroFill (width : Nat) (digits : List Char) : List Char :=
  List.replicate (width - digits.length) '0' ++ digits

/-- The number `n` in lower-case hexadecimal, filled up to `width` by `zeroFill`. -/
def hexLower (width n : Nat) : String :=
  String.ofList (zeroFill width (Nat.toDigits 16 n))

/-- The integer `n` in upper-case hexadecimal.  A minus sign comes first and counts towards the
`width`. -/
def hexUpper (width : Nat) (n : Int) : String :=
  let digits := (Nat.toDigits 16 n.natAbs).map Char.toUpper
  if n < 0 then
    String.ofList ('-' :: zeroFill (width - 1) digits)
  else
    String.ofList (zeroFill width digits)

end Bytecode.Text
