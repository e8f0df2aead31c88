import Entitlement.Text.Digits

/-!
# Spans of time

* `Span` : a length of time in nanoseconds; `ofMillis`, `ofSeconds`;
* `Span.text` : in the largest of the units s, ms, µs, ns that it fills, with the exact decimal
  fraction.
-/

namespace Entitlement

structure Span where
  nanos : Nat
  deriving DecidableEq, Repr

namespace Span

def ofMillis (n : Nat) : Span := ⟨n * 1000000⟩

def ofSeconds (n : Nat) : Span := ⟨n * 1000000000⟩

instance : Add Span := ⟨fun a b => ⟨a.nanos + b.nanos⟩⟩

def millis (s : Span) : Nat := s.nanos / 1000000

/-- A whole part and a fraction of `width` digits, without the zeros at its end. -/
def fixed (whole width part : Nat) : String :=
  let digits := ((Text.padded width part).toList.reverse.dropWhile (· = '0')).reverse
  Text.decimal whole ++ (if part = 0 then "" else "." ++ String.ofList digits)

def text (s : Span) : String :=
  if 1000000000 ≤ s.nanos then fixed (s.nanos / 1000000000) 9 (s.nanos % 1000000000) ++ "s"
  else if 1000000 ≤ s.nanos then fixed (s.nanos / 1000000) 6 (s.nanos % 1000000) ++ "ms"
  else if 1000 ≤ s.nanos then fixed (s.nanos / 1000) 3 (s.nanos % 1000) ++ "µs"
  else Text.decimal s.nanos ++ "ns"

end Span

end Entitlement
