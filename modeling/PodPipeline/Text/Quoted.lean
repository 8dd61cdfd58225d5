import PodPipeline.Text.Unprintable

/-! Diagnostic text: quoted strings, records, sequences, sets, maps and optional values. -/
namespace PodPipeline.Text

def hex (n : Nat) : String := String.ofList (Nat.toDigits 16 n)

/-- One character of a quoted text: a quote and a backslash take a backslash, four control
characters have letters or a digit, and any other unprintable character is given by its code point.
-/
def quoteChar (c : Char) : List Char :=
  if c = '"' then ['\\', '"']
  else if c = '\\' then ['\\', '\\']
  else if c = '\n' then ['\\', 'n']
  else if c = '\r' then ['\\', 'r']
  else if c = '\t' then ['\\', 't']
  else if c = '\x00' then ['\\', '0']
  else if isUnprintable c then ['\\', 'u', '\x7b'] ++ (hex c.toNat).toList ++ ['\x7d']
  else [c]

def quoted (s : String) : String :=
  String.ofList ('"' :: (s.toList.flatMap quoteChar ++ ['"']))

/-- An optional value: its text inside `Some(..)`, or `None`. -/
def optional : Option String → String
  | some s => "Some(" ++ s ++ ")"
  | none => "None"

def sequence (items : List String) : String := "[" ++ ", ".intercalate items ++ "]"

def braced (items : List String) : String := "\x7b" ++ ", ".intercalate items ++ "\x7d"

/-- A map, from its keys and values in order. -/
def mapping (entries : List (String × String)) : String :=
  braced (entries.map fun e => e.1 ++ ": " ++ e.2)

/-- A record of named fields; an open record ends in `..` for the fields that it does not show. -/
def record (name : String) (fields : List (String × String)) (isOpen : Bool) : String :=
  let shown := fields.map (fun f => f.1 ++ ": " ++ f.2) ++ (if isOpen then [".."] else [])
  name ++ " \x7b " ++ ", ".intercalate shown ++ " \x7d"

end PodPipeline.Text
