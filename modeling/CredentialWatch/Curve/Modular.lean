/-!
# Arithmetic modulo a prime

Numbers below a modulus, with powers by repeated squaring. In a prime field the inverse is a power,
and where the prime is one less than a multiple of four so is the square root.
-/
namespace CredentialWatch.Curve

/-- A power modulo a number. -/
def powMod (base exponent modulus : Nat) : Nat :=
  (List.range (exponent.log2 + 1)).reverse.foldl
    (fun result bit =>
      let square := result * result % modulus
      if exponent.testBit bit then square * base % modulus else square)
    (1 % modulus)

/-- A difference modulo a number, of numbers below it. -/
def subMod (left right modulus : Nat) : Nat :=
  (left + (modulus - right)) % modulus

/-- The inverse modulo a prime. -/
def inverseMod (number prime : Nat) : Nat := powMod number (prime - 2) prime

end CredentialWatch.Curve
