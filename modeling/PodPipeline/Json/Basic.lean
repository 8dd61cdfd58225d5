import PodPipeline.Text.Numeral

/-! JSON values and their compact text. -/
namespace PodPipeline

/-- A number, as an integer or by its literal when that has a fraction or an exponent or is `-0`. -/
inductive Number where
  | int (i : Int)
  | real (literal : String)
deriving DecidableEq, Repr

inductive Json where
  | null
  | bool (b : Bool)
  | number (n : Number)
  | string (s : String)
  | array (items : List Json)
  | object (fields : List (String × Json))

namespace Json

def int (i : Int) : Json := .number (.int i)

def strings (l : List String) : Json := .array (l.map .string)

/-- A field that is written only when its value is there. -/
def field? (key : String) (value : Option Json) : List (String × Json) :=
  (value.map fun v => (key, v)).toList

def text? (key : String) (value : Option String) : List (String × Json) :=
  field? key (value.map .string)

/-- One character inside a string: short escapes where JSON has them, `\u00xx` for the other
control characters, and every other character as it is. -/
def escapeChar (c : Char) : List Char :=
  if c = '"' then ['\\', '"']
  else if c = '\\' then ['\\', '\\']
  else if c = '\x08' then ['\\', 'b']
  else if c = '\x0c' then ['\\', 'f']
  else if c = '\n' then ['\\', 'n']
  else if c = '\r' then ['\\', 'r']
  else if c = '\t' then ['\\', 't']
  else if c.toNat < 0x20 then
    ['\\', 'u', '0', '0', Numeral.lowerHex (c.toNat / 16), Numeral.lowerHex (c.toNat % 16)]
  else [c]

def stringText (s : String) : List Char := '"' :: (s.toList.flatMap escapeChar ++ ['"'])

def numberText : Number → List Char
  | .int i => (toString i).toList
  | .real literal => literal.toList

mutual

/-- The text of a value, without white space and with the fields in their order. -/
def chars : Json → List Char
  | .null => "null".toList
  | .bool true => "true".toList
  | .bool false => "false".toList
  | .number n => numberText n
  | .string s => stringText s
  | .array items => '[' :: (itemChars items ++ [']'])
  | .object fields => '\x7b' :: (fieldChars fields ++ ['\x7d'])

def itemChars : List Json → List Char
  | [] => []
  | [v] => chars v
  | v :: w :: r => chars v ++ ',' :: itemChars (w :: r)

def fieldChars : List (String × Json) → List Char
  | [] => []
  | [(k, v)] => stringText k ++ ':' :: chars v
  | (k, v) :: f :: r => stringText k ++ ':' :: chars v ++ ',' :: fieldChars (f :: r)

end

def text (v : Json) : String := String.ofList (chars v)

end Json

end PodPipeline
