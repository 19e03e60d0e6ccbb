/-!
# Powers and widths

Powers of two and of ten, and the bounds of the integers that fit in a word.
-/

namespace TaxLedger

def twoTo (n : Nat) : Nat := Nat.pow 2 n

def tenTo (n : Nat) : Nat := Nat.pow 10 n

def int64Min : Int := -9223372036854775808

def int64Max : Int := 9223372036854775807

def isInt64 (n : Int) : Bool := int64Min ≤ n && n ≤ int64Max

def nat64Max : Nat := 18446744073709551615

def nat32Max : Nat := 4294967295

def int32Max : Nat := 2147483647

def isInt128 (n : Int) : Bool := -(twoTo 127 : Int) ≤ n && n < (twoTo 127 : Int)

end TaxLedger
