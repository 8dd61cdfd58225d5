import PodPipeline.Json.Doc
import PodPipeline.Text.Numeral

/-! The document of a JSON text, read by a pushdown automaton that takes one character at a time. -/
namespace PodPipeline.Doc

inductive Frame where
  | array (items : List Doc)
  | object (fields : List (Key × Doc))
  /-- An object whose next value belongs to `key`. -/
  | field (fields : List (Key × Doc)) (key : Key)

/-- How far an escape in a string has come. -/
inductive Escape where
  | none
  | backslash
  /-- The characters after `\u`, last first, until they fill four bytes. -/
  | code (seen : List Char)

/-- A string that is being read: its characters, last first, a leading surrogate that waits for its
partner, and whether some surrogate has none. -/
structure Chars where
  seen : List Char := []
  high : Option Nat := none
  unpaired : Bool := false
  escape : Escape := .none

/-- The part of a number that the last character belongs to. -/
inductive NumberPart where
  | sign | zero | whole | point | fraction | mark | markSign | exponent
deriving DecidableEq

/-- What the automaton is in the middle of. -/
inductive Place where
  | value
  | firstItem
  | firstKey
  | nextKey
  | colon (key : Key)
  | afterValue
  | key (chars : Chars)
  | string (chars : Chars)
  /-- The rest of `null`, `true` or `false`. -/
  | word (rest : List Char) (value : Doc)
  | number (part : NumberPart) (seen : List Char)

inductive State where
  | reading (frames : List Frame) (place : Place)
  | complete (doc : Doc)
  | broken (doc : Doc) (tail : Damage)

/-- Ends all open values around `inner`, where the text breaks. -/
def breakOff (d : Damage) : List Frame → Doc → Doc
  | [], inner => inner
  | .array items :: r, inner => breakOff d r (.array (inner :: items).reverse (some d))
  | .field fields k :: r, inner => breakOff d r (.object ((k, inner) :: fields).reverse (some d))
  | .object fields :: r, inner =>
    breakOff d r (.object ((.other, inner) :: fields).reverse (some d))

/-- The text breaks where a value is due; `onRead` is for those that read it, `onSkip` for the
others. -/
def breakValue (frames : List Frame) (onRead onSkip : Damage) : State :=
  .broken (breakOff onSkip frames (.unreadable onRead)) onSkip

def cutBetween (frames : List Frame) (d : Damage) : Doc :=
  match frames with
  | .array items :: r => breakOff d r (.array items.reverse (some d))
  | .object fields :: r => breakOff d r (.object fields.reverse (some d))
  | frames => breakOff d frames (.unreadable d)

def breakBetween (frames : List Frame) (d : Damage) : State := .broken (cutBetween frames d) d

def finishValue (frames : List Frame) (v : Doc) : State :=
  match frames with
  | [] => .complete v
  | .array items :: r => .reading (.array (v :: items) :: r) .afterValue
  | .field fields k :: r => .reading (.object ((k, v) :: fields) :: r) .afterValue
  | .object _ :: _ => .broken (breakOff .malformed frames v) .malformed

def close (frames : List Frame) : State :=
  match frames with
  | .array items :: r => finishValue r (.array items.reverse none)
  | .object fields :: r => finishValue r (.object fields.reverse none)
  | frames => breakValue frames .malformed .malformed

def isSpace (c : Char) : Bool := c = ' ' || c = '\n' || c = '\t' || c = '\r'

/-- A character where a value is due. -/
def stepValue (frames : List Frame) (c : Char) : State :=
  if isSpace c then .reading frames .value
  else if c = '"' then .reading frames (.string {})
  else if c = '[' then .reading (.array [] :: frames) .firstItem
  else if c = '\x7b' then .reading (.object [] :: frames) .firstKey
  else if c = 'n' then .reading frames (.word "ull".toList .null)
  else if c = 't' then .reading frames (.word "rue".toList (.bool true))
  else if c = 'f' then .reading frames (.word "alse".toList (.bool false))
  else if c = '-' then .reading frames (.number .sign [c])
  else if c = '0' then .reading frames (.number .zero [c])
  else if c.isDigit then .reading frames (.number .whole [c])
  else breakValue frames .malformed .malformed

/-- A character where a key is due, and where an object may end if `mayClose`. A number or a word
that stands there is read to its end, as the text may end within it. -/
def stepKey (frames : List Frame) (place : Place) (mayClose : Bool) (c : Char) : State :=
  if isSpace c then .reading frames place
  else if c = '"' then .reading frames (.key {})
  else if mayClose && c = '\x7d' then close frames
  else if c = '[' || c = '\x7b' then breakBetween frames .malformed
  else stepValue frames c

def stepAfter (frames : List Frame) (c : Char) : State :=
  if isSpace c then .reading frames .afterValue
  else match frames with
    | .array _ :: _ =>
      if c = ',' then .reading frames .value
      else if c = ']' then close frames
      else breakBetween frames .malformed
    | .object _ :: _ =>
      if c = ',' then .reading frames .nextKey
      else if c = '\x7d' then close frames
      else breakBetween frames .malformed
    | _ => breakBetween frames .malformed

def stepComplete (doc : Doc) (c : Char) : State :=
  if isSpace c then .complete doc else .broken doc .malformed

/-- The number of a literal: an integer, unless it has a fraction or an exponent or is `-0`. -/
def numberOf (literal : List Char) : Number :=
  if literal.all Char.isDigit then .int (Numeral.value 10 literal)
  else match literal with
    | '-' :: digits =>
      if digits.all Char.isDigit ∧ digits ≠ ['0'] then .int (-(Numeral.value 10 digits : Int))
      else .real (String.ofList literal)
    | _ => .real (String.ofList literal)

/-- The part of a number that `c` goes on with, if it can follow `part`. -/
def NumberPart.next? (part : NumberPart) (c : Char) : Option NumberPart :=
  let marks := c = 'e' || c = 'E'
  match part with
  | .sign => if c = '0' then some .zero else if c.isDigit then some .whole else none
  | .zero => if c = '.' then some .point else if marks then some .mark else none
  | .whole =>
    if c.isDigit then some .whole else if c = '.' then some .point
    else if marks then some .mark else none
  | .point => if c.isDigit then some .fraction else none
  | .fraction => if c.isDigit then some .fraction else if marks then some .mark else none
  | .mark =>
    if c.isDigit then some .exponent else if c = '+' || c = '-' then some .markSign else none
  | .markSign => if c.isDigit then some .exponent else none
  | .exponent => if c.isDigit then some .exponent else none

/-- Whether a number may end after this part. -/
def NumberPart.isWhole (part : NumberPart) : Bool :=
  part matches .zero | .whole | .fraction | .exponent

/-- A character after a whole value, which it may also go on to close or follow. -/
def stepFinished (s : State) (c : Char) : State :=
  match s with
  | .reading frames .afterValue => stepAfter frames c
  | .complete doc => stepComplete doc c
  | s => s

def stepNumber (frames : List Frame) (part : NumberPart) (seen : List Char) (c : Char) : State :=
  match part.next? c with
  | some next => .reading frames (.number next (c :: seen))
  | none =>
    if part.isWhole && !(part = .zero && c.isDigit) then
      stepFinished (finishValue frames (.number (numberOf seen.reverse))) c
    else breakValue frames .malformed .malformed

def hexCode? (digits : List Char) : Option Nat :=
  digits.foldlM (fun n c => (Numeral.hexValue? c).map (16 * n + ·)) 0

def isHighSurrogate (n : Nat) : Bool := 0xD800 ≤ n && n ≤ 0xDBFF

def isLowSurrogate (n : Nat) : Bool := 0xDC00 ≤ n && n ≤ 0xDFFF

namespace Chars

/-- The string with one more character; a leading surrogate before it stays alone. -/
def push (s : Chars) (c : Char) : Chars :=
  { s with
    seen := c :: s.seen, high := none, unpaired := s.unpaired || s.high.isSome, escape := .none }

/-- The string with the code unit `n` of an escape. -/
def pushCode (s : Chars) (n : Nat) : Chars :=
  match s.high with
  | some h =>
    if isLowSurrogate n then
      { s with
        seen := Char.ofNat (0x10000 + (h - 0xD800) * 0x400 + (n - 0xDC00)) :: s.seen
        high := none, escape := .none }
    else { s with high := none, unpaired := true, escape := .none }
  | none =>
    if isHighSurrogate n then { s with high := some n, escape := .none }
    else if isLowSurrogate n then { s with unpaired := true, escape := .none }
    else { s with seen := Char.ofNat n :: s.seen, escape := .none }

/-- Whether the text read so far has an unpaired surrogate, were it to go on with `c`. -/
def strands (s : Chars) : Bool := s.unpaired || s.high.isSome

/-- What a character does to a string: ends it, breaks it, or goes into it. -/
inductive Step where
  | ended (unpaired : Bool) (s : String)
  | broken
  | more (s : Chars)

def escaped? (c : Char) : Option Char :=
  match c with
  | '"' => some '"'
  | '\\' => some '\\'
  | '/' => some '/'
  | 'b' => some '\x08'
  | 'f' => some '\x0c'
  | 'n' => some '\n'
  | 'r' => some '\r'
  | 't' => some '\t'
  | _ => none

def step (s : Chars) (c : Char) : Step :=
  match s.escape with
  | .none =>
    if c = '"' then .ended s.strands (String.ofList s.seen.reverse)
    else if c = '\\' then .more { s with escape := .backslash }
    else if c.toNat < 0x20 then .broken
    else .more (s.push c)
  | .backslash =>
    if c = 'u' then .more { s with escape := .code [] }
    else match escaped? c with
      | some e => .more (s.push e)
      | none => .broken
  | .code seen =>
    let seen := c :: seen
    if seen.foldl (fun n c => n + c.utf8Size) 0 < 4 then .more { s with escape := .code seen }
    else match hexCode? seen.reverse with
      | some n => .more (s.pushCode n)
      | none => .broken

end Chars

def stepString (frames : List Frame) (s : Chars) (c : Char) : State :=
  match s.step c with
  | .ended true _ => finishValue frames (.unreadable .malformed)
  | .ended false t => finishValue frames (.string t)
  | .broken => breakValue frames .malformed .malformed
  | .more s => .reading frames (.string s)

def stepKeyChars (frames : List Frame) (s : Chars) (c : Char) : State :=
  match s.step c with
  | .ended true _ => .reading frames (.colon .unpaired)
  | .ended false t => .reading frames (.colon (.text t))
  | .broken => breakBetween frames .malformed
  | .more s => .reading frames (.key s)

/-- The open object on top of `frames` gets a key. -/
def named (frames : List Frame) (key : Key) : List Frame :=
  match frames with
  | .object fields :: r => .field fields key :: r
  | frames => frames

def step (s : State) (c : Char) : State :=
  match s with
  | .complete doc => stepComplete doc c
  | .broken doc tail => .broken doc tail
  | .reading frames place =>
    match place with
    | .value => stepValue frames c
    | .firstItem =>
      if isSpace c then s else if c = ']' then close frames else stepValue frames c
    | .firstKey => stepKey frames place true c
    | .nextKey => stepKey frames place false c
    | .colon key =>
      if isSpace c then s
      else if c = ':' then .reading (named frames key) .value
      else breakValue (named frames key) .malformed .malformed
    | .afterValue => stepAfter frames c
    | .key chars => stepKeyChars frames chars c
    | .string chars => stepString frames chars c
    | .word rest v =>
      match rest with
      | [] => breakValue frames .malformed .malformed
      | [d] => if c = d then finishValue frames v else breakValue frames .malformed .malformed
      | d :: r =>
        if c = d then .reading frames (.word r v) else breakValue frames .malformed .malformed
    | .number part seen => stepNumber frames part seen c

/-- What those that skip see when the text ends within a word: in the place of a key, a word is
wrong however it goes on. -/
def wordDamage : List Frame → Damage
  | .object _ :: _ => .malformed
  | _ => .cutShort

/-- The document when the text ends, and the damage at its end. -/
def State.finish : State → Doc × Option Damage
  | .complete doc => (doc, none)
  | .broken doc tail => (doc, some tail)
  | .reading frames place =>
    let cut (frames : List Frame) (inner : Doc) (onSkip : Damage) :=
      (breakOff onSkip frames inner, some onSkip)
    let cutValue (frames : List Frame) := cut frames (.unreadable .cutShort) .cutShort
    match place with
    | .value => cutValue frames
    | .word _ _ => cut frames .unfinished (wordDamage frames)
    | .colon key => cutValue (named frames key)
    | .firstItem | .firstKey | .afterValue => (cutBetween frames .cutShort, some .cutShort)
    | .nextKey => cutValue (named frames .cut)
    | .key chars =>
      cutValue (named frames (if chars.unpaired then .unpaired else .cut))
    | .string chars =>
      cut frames (.unreadable (if chars.unpaired then .malformed else .cutShort)) .cutShort
    | .number part seen =>
      if part.isWhole then
        match finishValue frames (.number (numberOf seen.reverse)) with
        | .complete doc => (doc, none)
        | .broken doc tail => (doc, some tail)
        | .reading frames _ => (cutBetween frames .cutShort, some .cutShort)
      else cut frames .unfinished .malformed

/-- The document of a text and the damage at its end, if it has any. -/
def read (text : String) : Doc × Option Damage :=
  (text.toList.foldl step (.reading [] .value)).finish

end PodPipeline.Doc
