/-!
# Limits of machine words

The largest values of the number types that limit what the program reads.
-/

namespace PuzzleInputs.Word

def max32 : Nat := 4294967295
def max64 : Nat := 18446744073709551615
def maxSigned32 : Nat := 2147483647
def maxSigned64 : Nat := 9223372036854775807
def max128 : Nat := 340282366920938463463374607431768211455
def maxSigned128 : Nat := 170141183460469231731687303715884105727

end PuzzleInputs.Word
