import PodPipeline.Json.Doc
import PodPipeline.Text.Numeral

/-! The bare values of TOML: truth values, numbers, and dates and times. -/
namespace PodPipeline.Toml

open Numeral

/-- Digits in groups, between which underscores stand; the underscores are left out. -/
def grouped? (isDigit : Char → Bool) (cs : List Char) : Option (List Char) :=
  let groups := cs.splitOnP (· = '_')
  if groups.all fun g => !g.isEmpty && g.all isDigit then some groups.flatten else none

/-- Decimal digits without needless zeros before them. -/
def decimal? (cs : List Char) : Option (List Char) :=
  (grouped? Char.isDigit cs).filter fun ds => ds.length = 1 || ds.head? ≠ some '0'

/-! Integers. -/

/-- A number that may stand in a document but has no value, as it is out of range or its digits are
wrong. It is refused by everyone who comes across it, be it only to skip it. -/
def valueless : Doc := .array [] (some .malformed)

/-- An integer, if it fits into 128 bits with or without a sign. -/
def ofInt (i : Int) : Doc :=
  if -0x80000000000000000000000000000000 ≤ i ∧ i < 0x100000000000000000000000000000000 then
    .number (.int i)
  else valueless

/-- An integer of another base than ten, whose digits may be missing altogether. -/
def inBase? (base : Nat) (cs : List Char) : Option Doc :=
  if cs.isEmpty then some valueless
  else (grouped? (fun c => (hexValue? c).any (· < base)) cs).map fun ds => ofInt (value base ds)

/-- Whether a text is taken for an integer that its underscores split into groups. Of each group,
only the characters beside an underscore are looked at. -/
def isSplit (cs : List Char) : Bool :=
  match cs.splitOnP (· = '_') with
  | first :: second :: r =>
    let later := second :: r
    first.all Char.isDigit && first.head?.any (· ≠ '0')
      && later.all (fun g => g.head?.any isHexDigit)
      && later.dropLast.all (fun g => g.getLast?.any isHexDigit)
      && later.all (fun g => g.all (!".eE ".toList.contains ·))
  | _ => false

def integer? (cs : List Char) : Option Doc :=
  match cs with
  | '0' :: 'x' :: r => inBase? 16 r
  | '0' :: 'o' :: r => inBase? 8 r
  | '0' :: 'b' :: r => inBase? 2 r
  | cs =>
    let (negative, r) := signed cs
    match decimal? r with
    | some ds =>
      let n : Int := value 10 ds
      some (ofInt (if negative then -n else n))
    | none => if isSplit r then some valueless else none

/-! Numbers with a fraction or an exponent. -/

def float? (cs : List Char) : Option Doc := do
  let (_, r) := signed cs
  let mantissa := r.takeWhile (!isExponentMark ·)
  let point := mantissa.dropWhile (· ≠ '.')
  let mark := r.dropWhile (!isExponentMark ·)
  if point.isEmpty && mark.isEmpty then none
  else
    let _ ← decimal? (mantissa.takeWhile (· ≠ '.'))
    let _ ← if point.isEmpty then some [] else grouped? Char.isDigit point.tail
    let _ ← if mark.isEmpty then some [] else grouped? Char.isDigit (signed mark.tail).2
    if (Numeral.decimal (cs.filter (· ≠ '_'))).isFinite then
      return .number (.real (String.ofList cs))
    else return valueless

def special? (cs : List Char) : Option Doc :=
  if (signed cs).2 ∈ ["inf".toList, "nan".toList] then some (.number (.real (String.ofList cs)))
  else none

def bool? (cs : List Char) : Option Doc :=
  if cs = "true".toList then some (.bool true)
  else if cs = "false".toList then some (.bool false)
  else none

/-! Dates and times. -/

/-- Exactly two digits, and the rest. -/
def twoDigits? : List Char → Option (Nat × List Char)
  | a :: b :: r => if a.isDigit && b.isDigit then some (value 10 [a, b], r) else none
  | _ => none

def isLeapYear (year : Nat) : Bool := year % 4 = 0 && (year % 100 ≠ 0 || year % 400 = 0)

def daysInMonth (year month : Nat) : Nat :=
  if month = 2 then (if isLeapYear year then 29 else 28)
  else if month ∈ [4, 6, 9, 11] then 30
  else 31

def afterDate? (cs : List Char) : Option (List Char) := do
  let (century, r) ← twoDigits? cs
  let (years, r) ← twoDigits? r
  let r ← r.head?.bind fun c => if c = '-' then some r.tail else none
  let (month, r) ← twoDigits? r
  let r ← r.head?.bind fun c => if c = '-' then some r.tail else none
  let (day, r) ← twoDigits? r
  let year := 100 * century + years
  if 1 ≤ month ∧ month ≤ 12 ∧ 1 ≤ day ∧ day ≤ daysInMonth year month then return r else none

def afterTime? (cs : List Char) : Option (List Char) := do
  let (hour, r) ← twoDigits? cs
  let r ← r.head?.bind fun c => if c = ':' then some r.tail else none
  let (minute, r) ← twoDigits? r
  if hour > 23 ∨ minute > 59 then none
  else match r with
    | ':' :: r => do
      let (second, r) ← twoDigits? r
      if second > 60 then none
      else match r with
        | '.' :: r =>
          if r.head?.any Char.isDigit then return r.dropWhile Char.isDigit else none
        | r => return r
    | r => return r

def isOffset (cs : List Char) : Bool :=
  match cs with
  | ['Z'] | ['z'] => true
  | sign :: r =>
    if sign = '+' ∨ sign = '-' then
      match twoDigits? r with
      | some (hours, ':' :: r) =>
        match twoDigits? r with
        | some (minutes, []) => hours ≤ 23 && minutes ≤ 59
        | _ => false
      | _ => false
    else false
  | [] => false

/-- Whether a text is a date, a time, or both, then maybe with an offset. -/
def isDatetime (cs : List Char) : Bool :=
  match afterDate? cs with
  | some [] => true
  | some (sep :: r) =>
    (sep = 'T' || sep = 't' || sep = ' ')
      && (afterTime? r).any fun r => r.isEmpty || isOffset r
  | none => afterTime? cs = some []

/-- A date or time. To others it is a table with a field that nobody knows or can read. -/
def datetime : Doc := .object [(.text "datetime", .null)] none

def scalar? (cs : List Char) : Option Doc :=
  (bool? cs).or <| (special? cs).or <| (integer? cs).or <| (float? cs).or <|
    if isDatetime cs then some datetime else none

end PodPipeline.Toml
