import PodPipeline.Text.Numeral

/-! The tokens of a TOML text, found by an automaton that takes one character at a time. -/
namespace PodPipeline.Toml

inductive Token where
  | newline
  /-- Blanks and tabs; `single` holds for one blank alone. -/
  | space (single : Bool)
  | dot
  | equals
  | comma
  | openBracket
  | closeBracket
  | openBrace
  | closeBrace
  /-- A string, with its escapes replaced. -/
  | quoted (text : String) (multiline : Bool)
  /-- A bare key or a part of a bare value. -/
  | atom (text : List Char)
deriving DecidableEq, Repr

inductive Quote where
  /-- A string in which a backslash begins an escape. -/
  | basic
  | literal
deriving DecidableEq, Repr

def Quote.mark : Quote → Char
  | .basic => '"'
  | .literal => '\''

/-- What a string over one line or several is in the middle of. -/
inductive StringPart where
  | text
  /-- A backslash has been read. -/
  | backslash
  /-- An escape needs this many more hexadecimal digits; `code` is the value of those read. -/
  | code (digits code : Nat)
  /-- The opening marks have just been read: a line end is left out here. -/
  | opened
  /-- A run of marks, which end the string if they are three or more. -/
  | marks (count : Nat)
  /-- A backslash at the end of a line, and the white space after it. -/
  | folding (lineEnded : Bool)
  /-- A carriage return, which only a line end may follow; the part before it. -/
  | carriage (before : StringPart)
deriving DecidableEq, Repr

inductive LexState where
  | between
  | spaces (single : Bool)
  | atom (seen : List Char)
  | comment
  | carriage
  /-- One or two marks that may open a string over several lines. -/
  | opening (q : Quote) (count : Nat)
  /-- A string on one line, with the characters read, last first. -/
  | line (q : Quote) (seen : List Char) (part : StringPart)
  | lines (q : Quote) (seen : List Char) (part : StringPart)
deriving DecidableEq, Repr

/-- The tokens found, last first, and what the text is in the middle of. -/
structure Lexing where
  tokens : List Token := []
  state : LexState := .between
deriving Repr

/-- Control characters other than the tab must not stand in comments and strings. -/
def isForbidden (c : Char) : Bool := (c.toNat < 0x20 && c ≠ '\t') || c.toNat = 0x7F

def isBlankOrTab (c : Char) : Bool := c = ' ' || c = '\t'

/-- What a backslash and one character stand for. -/
def escaped? (c : Char) : Option Char :=
  match c with
  | 'b' => some '\x08'
  | 't' => some '\t'
  | 'n' => some '\n'
  | 'f' => some '\x0c'
  | 'r' => some '\r'
  | 'e' => some '\x1b'
  | '"' => some '"'
  | '\\' => some '\\'
  | _ => none

/-- How many digits an escape for a code point has. -/
def codeDigits? (c : Char) : Option Nat :=
  match c with
  | 'x' => some 2
  | 'u' => some 4
  | 'U' => some 8
  | _ => none

/-- The characters with one that an escape stands for, and what comes next. -/
def escape? (seen : List Char) (part : StringPart) (c : Char) : Option (List Char × StringPart) :=
  match part with
  | .backslash =>
    match escaped? c, codeDigits? c with
    | some e, _ => some (e :: seen, .text)
    | none, some n => some (seen, .code n 0)
    | none, none => none
  | .code digits code => do
    let code := 16 * code + (← Numeral.hexValue? c)
    if digits ≤ 1 then
      if code.isValidChar then some (Char.ofNat code :: seen, .text) else none
    else some (seen, .code (digits - 1) code)
  | _ => none

namespace Lexing

def emit (l : Lexing) (t : Token) : Lexing := ⟨t :: l.tokens, .between⟩

def goTo (l : Lexing) (s : LexState) : Option Lexing := some { l with state := s }

def stepBetween (l : Lexing) (c : Char) : Option Lexing :=
  match c with
  | '\n' => some (l.emit .newline)
  | '\r' => l.goTo .carriage
  | ' ' => l.goTo (.spaces true)
  | '\t' => l.goTo (.spaces false)
  | '#' => l.goTo .comment
  | '.' => some (l.emit .dot)
  | '=' => some (l.emit .equals)
  | ',' => some (l.emit .comma)
  | '[' => some (l.emit .openBracket)
  | ']' => some (l.emit .closeBracket)
  | '\x7b' => some (l.emit .openBrace)
  | '\x7d' => some (l.emit .closeBrace)
  | '"' => l.goTo (.opening .basic 1)
  | '\'' => l.goTo (.opening .literal 1)
  | c => l.goTo (.atom [c])

def endsAtom (c : Char) : Bool := ".=,[]\x7b\x7d \t#\r\n".toList.contains c

def stepLine (l : Lexing) (q : Quote) (seen : List Char) (part : StringPart) (c : Char) :
    Option Lexing :=
  match part with
  | .text =>
    if c = q.mark then some (l.emit (.quoted (String.ofList seen.reverse) false))
    else if q = .basic ∧ c = '\\' then l.goTo (.line q seen .backslash)
    else if isForbidden c then none
    else l.goTo (.line q (c :: seen) .text)
  | part => (escape? seen part c).bind fun (seen, part) => l.goTo (.line q seen part)

/-- A character of a string over several lines that ends no run of marks. -/
def stepText (l : Lexing) (q : Quote) (seen : List Char) (c : Char) : Option Lexing :=
  if c = q.mark then l.goTo (.lines q seen (.marks 1))
  else if q = .basic ∧ c = '\\' then l.goTo (.lines q seen .backslash)
  else if c = '\n' then l.goTo (.lines q ('\n' :: seen) .text)
  else if c = '\r' then l.goTo (.lines q seen (.carriage .text))
  else if isForbidden c then none
  else l.goTo (.lines q (c :: seen) .text)

/-- The string that a run of three to five marks ends; those before the last three belong to it. -/
def closed (q : Quote) (seen : List Char) (count : Nat) : Token :=
  .quoted (String.ofList (List.replicate (count - 3) q.mark ++ seen).reverse) true

/-- A character of a string over several lines. -/
def stepLines (l : Lexing) (q : Quote) (seen : List Char) (part : StringPart) (c : Char) :
    Option Lexing :=
  match part with
  | .text => l.stepText q seen c
  | .opened =>
    if c = '\n' then l.goTo (.lines q seen .text)
    else if c = '\r' then l.goTo (.lines q seen (.carriage .opened))
    else l.stepText q seen c
  | .marks count =>
    if c = q.mark then
      if count = 4 then some (l.emit (closed q seen 5))
      else l.goTo (.lines q seen (.marks (count + 1)))
    else if 3 ≤ count then (l.emit (closed q seen count)).stepBetween c
    else l.stepText q (List.replicate count q.mark ++ seen) c
  | .backslash =>
    if isBlankOrTab c then l.goTo (.lines q seen (.folding false))
    else if c = '\n' then l.goTo (.lines q seen (.folding true))
    else if c = '\r' then l.goTo (.lines q seen (.carriage (.folding true)))
    else (escape? seen .backslash c).bind fun (seen, part) => l.goTo (.lines q seen part)
  | .folding lineEnded =>
    if isBlankOrTab c then l.goTo (.lines q seen (.folding lineEnded))
    else if c = '\n' then l.goTo (.lines q seen (.folding true))
    else if c = '\r' then l.goTo (.lines q seen (.carriage (.folding true)))
    else if lineEnded then l.stepText q seen c
    else none
  | .carriage before =>
    if c ≠ '\n' then none
    else match before with
      | .text => l.goTo (.lines q ('\n' :: '\r' :: seen) .text)
      | .opened => l.goTo (.lines q seen .text)
      | before => l.goTo (.lines q seen before)
  | part => (escape? seen part c).bind fun (seen, part) => l.goTo (.lines q seen part)

def step (l : Lexing) (c : Char) : Option Lexing :=
  match l.state with
  | .between => l.stepBetween c
  | .spaces single =>
    if isBlankOrTab c then l.goTo (.spaces false) else (l.emit (.space single)).stepBetween c
  | .atom seen =>
    if endsAtom c then (l.emit (.atom seen.reverse)).stepBetween c else l.goTo (.atom (c :: seen))
  | .comment =>
    if c = '\n' then some (l.emit .newline)
    else if c = '\r' then l.goTo .carriage
    else if isForbidden c then none
    else some l
  | .carriage => if c = '\n' then some (l.emit .newline) else none
  | .opening q count =>
    if c = q.mark then
      if count = 1 then l.goTo (.opening q 2) else l.goTo (.lines q [] .opened)
    else if count = 1 then l.stepLine q [] .text c
    else (l.emit (.quoted "" false)).stepBetween c
  | .line q seen part => l.stepLine q seen part c
  | .lines q seen part => l.stepLines q seen part c

/-- The tokens when the text ends, in order. The last line need not be ended. -/
def finish (l : Lexing) : Option (List Token) :=
  let last (t : List Token) := some ((t ++ l.tokens).reverse ++ [.newline])
  match l.state with
  | .between | .comment => last []
  | .spaces single => last [.space single]
  | .atom seen => last [.atom seen.reverse]
  | .opening _ 2 => last [.quoted "" false]
  | .lines q seen (.marks count) => if 3 ≤ count then last [closed q seen count] else none
  | _ => none

end Lexing

/-- The tokens of a text. A byte order mark may stand before it. -/
def tokens (text : String) : Option (List Token) := do
  let cs := match text.toList with
    | '\ufeff' :: r => r
    | cs => cs
  (← cs.foldlM Lexing.step {}).finish

end PodPipeline.Toml
