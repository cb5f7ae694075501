import CredentialWatch.Bytes
import CredentialWatch.Toml.Value

/-!
# Scalars without quotes

Truth values, integers in four bases, decimals, dates and times. A single underscore may stand
between two digits; only decimal numbers have a sign, and none has leading zeros.
-/
namespace CredentialWatch.Toml

def isDigit (char : Char) : Bool :=
  '0' ≤ char && char ≤ '9'

/-- The value of a digit of a base. -/
def digit? (base : Nat) (char : Char) : Option Nat :=
  (Bytes.hexValue? char).filter (· < base)

/-- The digits of a base at the front, single underscores between them left out, and the rest. The
flag says whether a digit stands before. -/
def digitsFrom (base : Nat) : Bool → List Char → List Nat × List Char
  | _, [] => ([], [])
  | afterDigit, char :: rest =>
    match digit? base char with
    | some digit =>
      let (digits, rest) := digitsFrom base true rest
      (digit :: digits, rest)
    | none =>
      if char = '_' ∧ afterDigit ∧ rest.head?.any fun next => (digit? base next).isSome then
        digitsFrom base false rest
      else ([], char :: rest)

/-- The digits of a base at the front and the rest. -/
def digitsOf (base : Nat) (chars : List Char) : List Nat × List Char :=
  digitsFrom base false chars

def numberOf (base : Nat) (digits : List Nat) : Nat :=
  digits.foldl (fun sum digit => sum * base + digit) 0

/-- A number that is nothing but digits of a base. -/
def wholeOf? (base : Nat) (chars : List Char) : Option Nat :=
  let (digits, rest) := digitsOf base chars
  if digits.isEmpty ∨ ¬ rest.isEmpty then none else some (numberOf base digits)

/-- What a sign at the front makes of a number, and the rest. -/
def signOf : List Char → Int × List Char
  | '+' :: rest => (1, rest)
  | '-' :: rest => (-1, rest)
  | chars => (1, chars)

/-- The decimal digits at the front, if there are any and they do not begin with a needless zero. -/
def decimalDigits? (chars : List Char) : Option (List Nat × List Char) :=
  let (digits, rest) := digitsOf 10 chars
  if digits.isEmpty ∨ (digits.head? = some 0 ∧ 1 < digits.length) then none
  else some (digits, rest)

def integer? (chars : List Char) : Option Int :=
  match chars with
  | '0' :: 'x' :: digits => (wholeOf? 16 digits).map Int.ofNat
  | '0' :: 'o' :: digits => (wholeOf? 8 digits).map Int.ofNat
  | '0' :: 'b' :: digits => (wholeOf? 2 digits).map Int.ofNat
  | _ =>
    let (sign, chars) := signOf chars
    match decimalDigits? chars with
    | some (digits, []) => some (sign * numberOf 10 digits)
    | _ => none

/-- Whether characters are an exponent. -/
def isExponent : List Char → Bool
  | mark :: rest =>
    (mark == 'e' || mark == 'E') && (wholeOf? 10 (signOf rest).2).isSome
  | [] => false

/-- Whether characters are a number with a fraction, an exponent or both, or one of the two that are
no numbers. -/
def isDecimal (chars : List Char) : Bool :=
  let chars := (signOf chars).2
  if chars == ['i', 'n', 'f'] || chars == ['n', 'a', 'n'] then true
  else
    match decimalDigits? chars with
    | some (_, '.' :: rest) =>
      let (digits, rest) := digitsOf 10 rest
      !digits.isEmpty && (rest.isEmpty || isExponent rest)
    | some (_, rest) => isExponent rest
    | none => false

/-- The number that exactly `count` digits at the front spell, and the rest. -/
def fixed? (count : Nat) (chars : List Char) : Option (Nat × List Char) :=
  let digits := chars.take count
  if digits.length = count ∧ digits.all isDigit then
    some (numberOf 10 (digits.filterMap Bytes.hexValue?), chars.drop count)
  else none

def isLeap (year : Nat) : Bool :=
  (year % 4 == 0 && year % 100 != 0) || year % 400 == 0

def daysIn (year month : Nat) : Nat :=
  if month = 2 then (if isLeap year then 29 else 28)
  else if month = 4 ∨ month = 6 ∨ month = 9 ∨ month = 11 then 30
  else 31

/-- What follows a date at the front. -/
def afterDate? (chars : List Char) : Option (List Char) := do
  let (year, rest) ← fixed? 4 chars
  let '-' :: rest := rest | none
  let (month, rest) ← fixed? 2 rest
  let '-' :: rest := rest | none
  let (day, rest) ← fixed? 2 rest
  if 1 ≤ month ∧ month ≤ 12 ∧ 1 ≤ day ∧ day ≤ daysIn year month then some rest else none

/-- What follows a fraction of a second, if there is one. -/
def afterFraction? : List Char → Option (List Char)
  | '.' :: rest => if (rest.head?.any isDigit) then some (rest.dropWhile isDigit) else none
  | chars => some chars

/-- What follows a time of day at the front; seconds may be left out. -/
def afterTime? (chars : List Char) : Option (List Char) := do
  let (hour, rest) ← fixed? 2 chars
  let ':' :: rest := rest | none
  let (minute, rest) ← fixed? 2 rest
  if 23 < hour ∨ 59 < minute then none
  match rest with
  | ':' :: rest =>
    let (second, rest) ← fixed? 2 rest
    if 60 < second then none else afterFraction? rest
  | _ => some rest

/-- Whether characters are an offset from universal time. -/
def isOffset : List Char → Bool
  | ['Z'] => true
  | ['z'] => true
  | sign :: rest =>
    (sign == '+' || sign == '-') &&
      (match fixed? 2 rest with
       | some (hour, ':' :: rest) =>
         match fixed? 2 rest with
         | some (minute, []) => hour ≤ 23 && minute ≤ 59
         | _ => false
       | _ => false)
  | [] => false

/-- Whether characters are a date, a time, or a date and a time with or without an offset. -/
def isMoment (chars : List Char) : Bool :=
  match afterDate? chars with
  | some [] => true
  | some (mark :: rest) =>
    (mark == 'T' || mark == 't' || mark == ' ') &&
      (match afterTime? rest with
       | some rest => rest.isEmpty || isOffset rest
       | none => false)
  | none =>
    match afterTime? chars with
    | some rest => rest.isEmpty
    | none => false

/-- The value of a scalar without quotes. -/
def scalar? (chars : List Char) : Option Value :=
  if chars = ['t', 'r', 'u', 'e'] then some (.boolean true)
  else if chars = ['f', 'a', 'l', 's', 'e'] then some (.boolean false)
  else
    match integer? chars with
    | some value => some (.integer value)
    | none =>
      if isDecimal chars then some .decimal
      else if isMoment chars then some .moment
      else none

end CredentialWatch.Toml
