/-! Digits, and the numbers that they write. -/
namespace PodPipeline.Numeral

def hexValue? (c : Char) : Option Nat :=
  if c.isDigit then some (c.toNat - '0'.toNat)
  else if 'a' ≤ c ∧ c ≤ 'f' then some (c.toNat - 'a'.toNat + 10)
  else if 'A' ≤ c ∧ c ≤ 'F' then some (c.toNat - 'A'.toNat + 10)
  else none

def isHexDigit (c : Char) : Bool := (hexValue? c).isSome

def lowerHex (n : Nat) : Char := "0123456789abcdef".toList.getD n '0'

def upperHex (n : Nat) : Char := "0123456789ABCDEF".toList.getD n '0'

theorem hexValue?_lowerHex : ∀ n < 16, hexValue? (lowerHex n) = some n := by decide

def value (base : Nat) (digits : List Char) : Nat :=
  digits.foldl (fun n c => base * n + (hexValue? c).getD 0) 0

/-- A sign, which says whether the number is negative, and the rest. -/
def signed (cs : List Char) : Bool × List Char :=
  match cs with
  | '-' :: r => (true, r)
  | '+' :: r => (false, r)
  | cs => (false, cs)

def isExponentMark (c : Char) : Bool := c = 'e' || c = 'E'

/-- A decimal number without its sign: the digits before and after the point, and the exponent. -/
structure Decimal where
  whole : List Char
  fraction : List Char
  exponent : Int
deriving Repr

/-- The number of a text that may have a sign, a fraction and an exponent. -/
def decimal (cs : List Char) : Decimal :=
  let (_, r) := signed cs
  let mantissa := r.takeWhile (!isExponentMark ·)
  let (negative, digits) := signed (r.dropWhile (!isExponentMark ·)).tail
  let exponent : Int := value 10 digits
  { whole := mantissa.takeWhile (· ≠ '.')
    fraction := (mantissa.dropWhile (· ≠ '.')).tail
    exponent := if negative then -exponent else exponent }

/-! Binary numbers of 64 bits. -/

/-- What is not below this number is rounded to infinity. -/
def binaryLimit : Nat := Nat.pow 2 1024 - Nat.pow 2 970

/-- Whether the decimal number of `digits`, times ten to the power of `exponent`, is rounded to a
finite binary number. -/
def isFinite (digits : List Char) (exponent : Int) : Bool :=
  let ds := digits.dropWhile (· = '0')
  let magnitude : Int := ds.length + exponent
  if ds.isEmpty || magnitude < 309 then true
  else if 310 < magnitude then false
  else
    let n := value 10 ds
    if 0 ≤ exponent then n * Nat.pow 10 exponent.toNat < binaryLimit
    else n < binaryLimit * Nat.pow 10 (-exponent).toNat

/-- Whether a number is rounded to a finite binary number. -/
def Decimal.isFinite (d : Decimal) : Bool :=
  Numeral.isFinite (d.whole ++ d.fraction) (d.exponent - d.fraction.length)

/-- A number rounded to the 53 bits that a binary number keeps; a half goes to the even neighbour.
-/
def roundToBinary (n : Nat) : Nat :=
  let unit := Nat.pow 2 (n.log2 - 52)
  let below := n / unit
  let rest := n % unit
  if 2 * rest < unit ∨ (2 * rest = unit ∧ below % 2 = 0) then below * unit else (below + 1) * unit

/-- Goes on from `n` with the first of some digits, as long as 64 bits hold them, and leaves the
other digits. -/
def takeWord (n : Nat) : List Char → Nat × List Char
  | [] => (n, [])
  | c :: r =>
    let m := 10 * n + (hexValue? c).getD 0
    if m < 0x10000000000000000 then takeWord m r else (n, c :: r)

/-- Whether a number is finite when it is made the short way: the digits that one word holds, times
a power of ten, with both factors and the product rounded. Near the limit this differs from rounding
once. -/
def Decimal.isFiniteProduct (d : Decimal) : Bool :=
  let (n, wholeRest) := takeWord 0 d.whole
  let (n, fractionRest) := takeWord n d.fraction
  let scale := d.exponent + wholeRest.length + fractionRest.length - d.fraction.length
  if n = 0 ∨ scale < 0 then true
  else if 308 < scale then false
  else roundToBinary n * roundToBinary (Nat.pow 10 scale.toNat) < binaryLimit

end PodPipeline.Numeral
