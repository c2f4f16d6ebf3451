/-!
# Decimal numbers

Unsigned numbers as people type them: ASCII digits, perhaps behind a plus sign.
-/

namespace TupleSpace.Text

def digit? (c : Char) : Option Nat :=
  if '0' ≤ c ∧ c ≤ '9' then some (c.toNat - '0'.toNat) else none

def digitsFrom? (value : Nat) : List Char → Option Nat
  | [] => some value
  | c :: rest => (digit? c).bind (fun digit => digitsFrom? (value * 10 + digit) rest)

def natural? : List Char → Option Nat
  | [] => none
  | digits => digitsFrom? 0 digits

/-- An unsigned number below a bound. A single leading `+` is allowed. -/
def unsigned? (bound : Nat) (text : List Char) : Option Nat :=
  let digits := match text with
    | '+' :: rest => rest
    | text => text
  (natural? digits).filter (· < bound)

end TupleSpace.Text
