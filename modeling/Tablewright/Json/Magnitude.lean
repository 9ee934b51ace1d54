/-! # Numbers out of range

Whether a number is too large for a binary floating point number of 64 bits. A number is taken as a
significand below `2^64` and a power of ten: digits that the significand has no room for count only
by their place. Both factors are rounded to 53 bits before they are multiplied. -/

namespace Tablewright.Json

/-- The largest significand. -/
def significandLimit : Nat :=
  18446744073709551615

/-- A significand with one more digit, if there is room for it. -/
def appendDigit? (m : Nat) (c : Char) : Option Nat :=
  let n := 10 * m + (c.toNat - '0'.toNat)
  if n ≤ significandLimit then some n else none

/-- Take up the digits in front of the point: the significand, and how many digits did not fit. -/
def takeWhole (m : Nat) : List Char → Nat × Nat
  | [] => (m, 0)
  | c :: cs =>
    match appendDigit? m c with
    | some n => takeWhole n cs
    | none => (m, cs.length + 1)

/-- Take up the digits behind the point: the significand, and how many digits went into it. -/
def takeFraction (m : Nat) : List Char → Nat × Nat
  | [] => (m, 0)
  | c :: cs =>
    match appendDigit? m c with
    | some n =>
      let (m', taken) := takeFraction n cs
      (m', taken + 1)
    | none => (m, 0)

/-- The number that decimal digits write. -/
def natOfDigits (digits : List Char) : Nat :=
  digits.foldl (fun n c => 10 * n + (c.toNat - '0'.toNat)) 0

/-- A number rounded to 53 significant bits; of two that are equally near, the even one. -/
def roundedBits (n : Nat) : Nat :=
  let unit := Nat.pow 2 (n.log2 + 1 - 53)
  let q := n / unit
  let r := n % unit
  if unit < 2 * r ∨ (2 * r = unit ∧ q % 2 = 1) then (q + 1) * unit else q * unit

/-- Is a significand times a power of ten out of range? -/
def isHuge (m : Nat) (exponent : Int) : Bool :=
  if m = 0 ∨ exponent < 0 then false
  else if 308 < exponent then true
  else Nat.pow 2 1024 - Nat.pow 2 970 ≤ roundedBits m * roundedBits (Nat.pow 10 exponent.toNat)

/-- The largest exponent that can be written. -/
def exponentLimit : Nat :=
  2147483647

/-- Is a number too large for a binary floating point number of 64 bits? -/
def outOfRange (lexeme : String) : Bool :=
  let s := lexeme.toList.filter (· != '-') |>.takeWhile fun c => c != 'e' && c != 'E'
  let tail := lexeme.toList.dropWhile fun c => c != 'e' && c != 'E'
  let (m, dropped) := takeWhole 0 (s.takeWhile (· != '.'))
  let (m, taken) := takeFraction m ((s.dropWhile (· != '.')).drop 1)
  let size := natOfDigits (tail.filter Char.isDigit)
  let isNegative := tail.contains '-'
  if exponentLimit < size then m != 0 && !isNegative
  else isHuge m ((dropped : Int) - taken + if isNegative then -(size : Int) else size)

end Tablewright.Json
