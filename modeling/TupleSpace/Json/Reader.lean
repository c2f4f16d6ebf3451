import TupleSpace.Json.Value
import TupleSpace.Regex.CharSet

/-!
# Reading JSON

A strict reader: no comments, no trailing commas, no leading zeros, no raw control characters in
texts. Every reader takes the text behind what is already read and returns the rest.
-/

namespace TupleSpace.Json

open TupleSpace.Regex (CharSet.hexValue?)

def isSpace (c : Char) : Bool := c == ' ' || c == '\t' || c == '\n' || c == '\r'

def skipSpace (text : List Char) : List Char := text.dropWhile isSpace

def readUnit? : List Char → Option (Nat × List Char)
  | a :: b :: c :: d :: rest => do
      let a ← CharSet.hexValue? a
      let b ← CharSet.hexValue? b
      let c ← CharSet.hexValue? c
      let d ← CharSet.hexValue? d
      some (((a * 16 + b) * 16 + c) * 16 + d, rest)
  | _ => none

def simpleEscape? : Char → Option Char
  | '"' => some '"'
  | '\\' => some '\\'
  | '/' => some '/'
  | 'b' => some '\x08'
  | 'f' => some '\x0C'
  | 'n' => some '\n'
  | 'r' => some '\r'
  | 't' => some '\t'
  | _ => none

/-- A character of a text, or a code unit that was escaped. -/
inductive Piece
  | char (c : Char)
  | unit (code : Nat)

/-- Joins escaped code units to characters. Half of a pair spells nothing. -/
def joinPieces? : List Piece → Option (List Char)
  | [] => some []
  | .char c :: rest => (joinPieces? rest).map (c :: ·)
  | .unit high :: .unit low :: rest =>
      if 0xD800 ≤ high ∧ high < 0xDC00 then
        if 0xDC00 ≤ low ∧ low < 0xE000 then
          (joinPieces? rest).map
            (Char.ofNat (0x10000 + (high - 0xD800) * 0x400 + (low - 0xDC00)) :: ·)
        else none
      else if 0xDC00 ≤ high ∧ high < 0xE000 then none
      else (joinPieces? (.unit low :: rest)).map (Char.ofNat high :: ·)
  | .unit code :: rest =>
      if 0xD800 ≤ code ∧ code < 0xE000 then none
      else (joinPieces? rest).map (Char.ofNat code :: ·)

def readPieces : Nat → List Char → Option (List Piece × List Char)
  | 0, _ => none
  | _ + 1, [] => none
  | _ + 1, '"' :: rest => some ([], rest)
  | rounds + 1, '\\' :: 'u' :: rest => do
      let (code, rest) ← readUnit? rest
      let (pieces, rest) ← readPieces rounds rest
      some (.unit code :: pieces, rest)
  | rounds + 1, '\\' :: c :: rest => do
      let c ← simpleEscape? c
      let (pieces, rest) ← readPieces rounds rest
      some (.char c :: pieces, rest)
  | _ + 1, ['\\'] => none
  | rounds + 1, c :: rest =>
      if c.toNat < 0x20 then none
      else (readPieces rounds rest).map (fun (pieces, rest) => (.char c :: pieces, rest))

def readText (text : List Char) : Option (Option (List Char) × List Char) :=
  (readPieces (text.length + 1) text).map (fun (pieces, rest) => (joinPieces? pieces, rest))

def readDigits (text : List Char) : Option (List Char × List Char) :=
  match text.takeWhile Char.isDigit with
  | [] => none
  | digits => some (digits, text.dropWhile Char.isDigit)

/-- Digits without a leading zero. -/
def readInteger (text : List Char) : Option (List Char × List Char) := do
  let (digits, rest) ← readDigits text
  if digits.head? == some '0' && digits.length != 1 then none else some (digits, rest)

def readFraction (text : List Char) : Option (List Char × List Char) :=
  match text with
  | '.' :: rest => (readDigits rest).map (fun (digits, rest) => ('.' :: digits, rest))
  | rest => some ([], rest)

def readExponent (text : List Char) : Option (List Char × List Char) :=
  match text with
  | e :: rest =>
      if e = 'e' ∨ e = 'E' then
        match rest with
        | sign :: rest' =>
            if sign = '+' ∨ sign = '-' then
              (readDigits rest').map (fun (digits, rest) => (e :: sign :: digits, rest))
            else (readDigits rest).map (fun (digits, rest) => (e :: digits, rest))
        | [] => none
      else some ([], text)
  | [] => some ([], [])

def readNumber (text : List Char) : Option (List Char × List Char) := do
  let (sign, text) := match text with
    | '-' :: rest => (['-'], rest)
    | text => ([], text)
  let (integer, text) ← readInteger text
  let (fraction, text) ← readFraction text
  let (exponent, text) ← readExponent text
  some (sign ++ integer ++ fraction ++ exponent, text)

mutual

/-- Reads a value. Each round consumes a character. -/
def readValue : Nat → List Char → Option (Value × List Char)
  | 0, _ => none
  | rounds + 1, text =>
      match skipSpace text with
      | 'n' :: 'u' :: 'l' :: 'l' :: rest => some (.null, rest)
      | 't' :: 'r' :: 'u' :: 'e' :: rest => some (.bool true, rest)
      | 'f' :: 'a' :: 'l' :: 's' :: 'e' :: rest => some (.bool false, rest)
      | '"' :: rest => (readText rest).map (fun (content, rest) => (.text content, rest))
      | '[' :: rest =>
          match skipSpace rest with
          | ']' :: rest => some (.array [], rest)
          | rest => (readItems rounds rest).map (fun (items, rest) => (.array items, rest))
      | '\x7b' :: rest =>
          match skipSpace rest with
          | '\x7d' :: rest => some (.object [], rest)
          | rest =>
              (readMembers rounds rest).map (fun (members, rest) => (.object members, rest))
      | rest => (readNumber rest).map (fun (digits, rest) => (.number digits, rest))

def readItems : Nat → List Char → Option (List Value × List Char)
  | 0, _ => none
  | rounds + 1, text => do
      let (item, rest) ← readValue rounds text
      match skipSpace rest with
      | ']' :: rest => some ([item], rest)
      | ',' :: rest => do
          let (items, rest) ← readItems rounds rest
          some (item :: items, rest)
      | _ => none

def readMembers : Nat → List Char → Option (List (Option (List Char) × Value) × List Char)
  | 0, _ => none
  | rounds + 1, text =>
      match skipSpace text with
      | '"' :: rest => do
          let (key, rest) ← readText rest
          match skipSpace rest with
          | ':' :: rest => do
              let (value, rest) ← readValue rounds rest
              match skipSpace rest with
              | '\x7d' :: rest => some ([(key, value)], rest)
              | ',' :: rest => do
                  let (members, rest) ← readMembers rounds rest
                  some ((key, value) :: members, rest)
              | _ => none
          | _ => none
      | _ => none

end

/-- Reads a text that holds just one value, perhaps with space around it. -/
def read? (text : List Char) : Option Value :=
  match readValue (2 * text.length + 2) text with
  | some (value, rest) => if (skipSpace rest).isEmpty then some value else none
  | none => none

end TupleSpace.Json
