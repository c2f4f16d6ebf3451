/-!
# JSON values

Values keep what reading has to know later: numbers stay as they were written, and texts that
spell half a surrogate pair are kept without content.
-/

namespace TupleSpace.Json

inductive Value
  | null
  | bool (value : Bool)
  | number (digits : List Char)
  /-- Without content if the escapes do not spell Unicode text. -/
  | text (content? : Option (List Char))
  | array (items : List Value)
  | object (members : List (Option (List Char) × Value))
deriving Repr, Inhabited

def hexPair (code : Nat) : List Char := [Nat.digitChar (code / 16), Nat.digitChar (code % 16)]

/-- Quotes, backslashes and control characters are escaped, and nothing else. -/
def escapedChar (c : Char) : List Char :=
  if c = '"' then ['\\', '"']
  else if c = '\\' then ['\\', '\\']
  else if 0x20 ≤ c.toNat then [c]
  else if c = '\x08' then ['\\', 'b']
  else if c = '\x0C' then ['\\', 'f']
  else if c = '\n' then ['\\', 'n']
  else if c = '\r' then ['\\', 'r']
  else if c = '\t' then ['\\', 't']
  else ['\\', 'u', '0', '0'] ++ hexPair c.toNat

def encodeText (content : List Char) : List Char :=
  '"' :: content.flatMap escapedChar ++ ['"']

def commaSeparated : List (List Char) → List Char
  | [] => []
  | [item] => item
  | item :: rest => item ++ ',' :: commaSeparated rest

def encodeArray (items : List (List Char)) : List Char :=
  '[' :: commaSeparated items ++ [']']

def encodeObject (members : List (String × List Char)) : List Char :=
  '\x7b' :: commaSeparated
    (members.map (fun (key, value) => encodeText key.toList ++ ':' :: value)) ++ ['\x7d']

def encodeNumber (number : Nat) : List Char := Nat.toDigits 10 number

end TupleSpace.Json
