import TupleSpace.Regex.CharSet

/-!
# Characters as bytes

The bytes that encode a character, and the sequences of byte ranges that encode the characters
of a set: a text of the set is one that runs through one of the sequences.
-/

namespace TupleSpace.Regex.Encoding

def utf8 (code : Nat) : List Nat :=
  if code < 0x80 then [code]
  else if code < 0x800 then [0xC0 + code / 64, 0x80 + code % 64]
  else if code < 0x10000 then [0xE0 + code / 4096, 0x80 + code / 64 % 64, 0x80 + code % 64]
  else [0xF0 + code / 262144, 0x80 + code / 4096 % 64, 0x80 + code / 64 % 64, 0x80 + code % 64]

/-- Where a range of code points has to be cut so that both parts get closer to being a product
of byte ranges: at the surrogates, where the encoded length changes, and where the trailing
bytes do not run through their whole span. Returns the ends of the parts. -/
def cut? (low high : Nat) : Option (Nat × Nat) :=
  if low < 0xE000 ∧ 0xD7FF < high then some (0xD7FF, 0xE000)
  else match [0x7F, 0x7FF, 0xFFFF].find? (fun last => low ≤ last ∧ last < high) with
    | some last => some (last, last + 1)
    | none =>
        if high ≤ 0x7F then none
        else [64, 4096, 262144].findSome? fun span =>
          if low / span = high / span then none
          else if low % span ≠ 0 then
            let last := low / span * span + span - 1
            some (last, last + 1)
          else if high % span ≠ span - 1 then
            let first := high / span * span
            some (first - 1, first)
          else none

/-- Cuts a range of code points into sequences of byte ranges. Each cut settles one end at one
byte, so twenty rounds are more than any range needs. -/
def byteSequences : Nat → Nat → Nat → List (List CodeRange)
  | 0, _, _ => []
  | rounds + 1, low, high =>
      if high < low then []
      else match cut? low high with
        | some (last, first) =>
            byteSequences rounds low last ++ byteSequences rounds first high
        | none => [List.zipWith CodeRange.mk (utf8 low) (utf8 high)]

def sequences (set : CharSet) : List (List CodeRange) :=
  set.ranges.flatMap (fun range => byteSequences 20 range.low range.high)

def byFirst : List (List CodeRange) → List (CodeRange × List (List CodeRange))
  | [] => []
  | [] :: rest => byFirst rest
  | (first :: tail) :: rest =>
      match byFirst rest with
      | (other, tails) :: groups =>
          if first = other then (first, tail :: tails) :: groups
          else (first, [tail]) :: (other, tails) :: groups
      | [] => [(first, [tail])]

end TupleSpace.Regex.Encoding
