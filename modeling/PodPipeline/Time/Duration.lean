/-! Spans of time and moments on a bounded clock. -/
namespace PodPipeline

structure Duration where
  seconds : Nat
  nanos : Nat
  seconds_lt : seconds < 0x10000000000000000 := by omega
  nanos_lt : nanos < 1000000000 := by omega
deriving DecidableEq, Repr

namespace Duration

def zero : Duration := ⟨0, 0, by decide, by decide⟩

def longest : Duration := ⟨0x10000000000000000 - 1, 1000000000 - 1, by decide, by decide⟩

/-- A span given in milliseconds, cut to the longest. -/
def ofMillis (ms : Nat) : Duration :=
  if h : ms / 1000 < 0x10000000000000000 then
    ⟨ms / 1000, ms % 1000 * 1000000, h, by
      have := Nat.mod_lt ms (by decide : 1000 > 0); omega⟩
  else longest

/-- A span given in seconds and nanoseconds, where the nanoseconds may exceed a second. -/
def ofParts (seconds nanos : Nat) : Duration :=
  if h : seconds + nanos / 1000000000 < 0x10000000000000000 then
    ⟨seconds + nanos / 1000000000, nanos % 1000000000, h, Nat.mod_lt _ (by decide)⟩
  else longest

def toNanos (d : Duration) : Nat := d.seconds * 1000000000 + d.nanos

/-- The digits of `part` out of `10 ^ width`, without the zeros at the end. -/
def fraction (part width : Nat) : List Char :=
  let digits := Nat.toDigits 10 part
  let padded := List.replicate (width - digits.length) '0' ++ digits
  (padded.reverse.dropWhile (· = '0')).reverse

/-- A whole number, its exact fraction if it has one, and a unit. -/
def amount (whole part width : Nat) (unit : String) : String :=
  let tail := if part = 0 then "" else "." ++ String.ofList (fraction part width)
  toString whole ++ tail ++ unit

/-- The text of a span, in the largest of the units s, ms, µs and ns that fits into it. -/
def text (d : Duration) : String :=
  if 0 < d.seconds then amount d.seconds d.nanos 9 "s"
  else if 1000000 ≤ d.nanos then amount (d.nanos / 1000000) (d.nanos % 1000000) 6 "ms"
  else if 1000 ≤ d.nanos then amount (d.nanos / 1000) (d.nanos % 1000) 3 "µs"
  else amount d.nanos 0 0 "ns"

end Duration

/-- A moment of a clock that counts signed 64-bit seconds, in nanoseconds since the clock's zero. -/
structure Instant where
  nanos : Nat
  nanos_lt : nanos < 0x8000000000000000 * 1000000000 := by omega
deriving DecidableEq, Repr

namespace Instant

def zero : Instant := ⟨0, by decide⟩

def add? (i : Instant) (d : Duration) : Option Instant :=
  if h : i.nanos + d.toNanos < 0x8000000000000000 * 1000000000 then some ⟨i.nanos + d.toNanos, h⟩ else none

def last : Instant := ⟨0x8000000000000000 * 1000000000 - 1, by decide⟩

/-- The moment `d` later, or the last one of the clock. -/
def later (i : Instant) (d : Duration) : Instant := (i.add? d).getD last

def toMillis (i : Instant) : Nat := i.nanos / 1000000

def reached (deadline now : Instant) : Bool := deadline.nanos ≤ now.nanos

end Instant

end PodPipeline
