import TupleSpace.Text.Number

/-!
# TOML scalars

Readers for texts, numbers, dates and times. A reader hands back what is left of its input. It
fails where nothing of its kind starts; what follows a scalar is not its concern.
-/

namespace TupleSpace.Toml

open TupleSpace.Text

def isBlank (c : Char) : Bool := c = ' ' || c = '\t'

/-- Text holds no control characters but tabs. -/
def isTextChar (c : Char) : Bool := c = '\t' || (0x20 ≤ c.toNat && c.toNat ≠ 0x7F)

def skipBlanks (text : List Char) : List Char := text.dropWhile isBlank

def newline? : List Char → Option (List Char)
  | '\n' :: rest => some rest
  | '\r' :: '\n' :: rest => some rest
  | _ => none

def hexDigit? (c : Char) : Option Nat :=
  if '0' ≤ c ∧ c ≤ '9' then some (c.toNat - '0'.toNat)
  else if 'a' ≤ c ∧ c ≤ 'f' then some (c.toNat - 'a'.toNat + 10)
  else if 'A' ≤ c ∧ c ≤ 'F' then some (c.toNat - 'A'.toNat + 10)
  else none

/-- The character with a code in hexadecimal digits, unless the code is half a surrogate pair or
past the last. -/
def codePoint? (digits : List Char) : Option Char := do
  let code := (← digits.mapM hexDigit?).foldl (fun code digit => code * 16 + digit) 0
  if code.isValidChar then some (Char.ofNat code) else none

def readEscape : List Char → Option (Char × List Char)
  | 'b' :: rest => some ('\x08', rest)
  | 't' :: rest => some ('\t', rest)
  | 'n' :: rest => some ('\n', rest)
  | 'f' :: rest => some ('\x0C', rest)
  | 'r' :: rest => some ('\r', rest)
  | '"' :: rest => some ('"', rest)
  | '\\' :: rest => some ('\\', rest)
  | 'u' :: rest =>
      if 4 ≤ rest.length then (codePoint? (rest.take 4)).map (·, rest.drop 4) else none
  | 'U' :: rest =>
      if 8 ≤ rest.length then (codePoint? (rest.take 8)).map (·, rest.drop 8) else none
  | _ => none

/-- Reads a text in double quotes, behind the opening quote. Each round uses a character up. -/
def readBasic : Nat → List Char → Option (List Char × List Char)
  | 0, _ => none
  | _ + 1, [] => none
  | _ + 1, '"' :: rest => some ([], rest)
  | rounds + 1, '\\' :: rest => do
      let (c, rest) ← readEscape rest
      let (content, rest) ← readBasic rounds rest
      some (c :: content, rest)
  | rounds + 1, c :: rest =>
      if isTextChar c then
        (readBasic rounds rest).map (fun (content, rest) => (c :: content, rest))
      else none

def readLiteral : List Char → Option (List Char × List Char)
  | [] => none
  | '\'' :: rest => some ([], rest)
  | c :: rest =>
      if isTextChar c then
        (readLiteral rest).map (fun (content, rest) => (c :: content, rest))
      else none

/-- A run of quotes in a text between triple quotes: short runs are content; longer ones close
the text, with up to two quotes of content before the closing three. -/
inductive QuoteRun
  | content
  | close (quotes : Nat)
  | tooLong

def quoteRun (length : Nat) : QuoteRun :=
  if length < 3 then .content
  else if length ≤ 5 then .close (length - 3)
  else .tooLong

/-- The text behind a backslash at a line end, and behind all blanks and line ends after it. -/
def joinLines? (text : List Char) : Option (List Char) :=
  (newline? (skipBlanks text)).map skipSpace
where
  skipSpace : List Char → List Char
    | [] => []
    | '\r' :: '\n' :: rest => skipSpace rest
    | c :: rest => if isBlank c || c = '\n' then skipSpace rest else c :: rest

/-- Reads a text in triple quotes, behind the opening quotes. Line ends are kept as `\n`. With
double quotes there are escapes, and a backslash at a line end joins lines. -/
def readLines (quote : Char) : Nat → List Char → Option (List Char × List Char)
  | 0, _ => none
  | _ + 1, [] => none
  | rounds + 1, c :: rest =>
      if c = quote then
        let length := 1 + (rest.takeWhile (· = quote)).length
        let after := rest.dropWhile (· = quote)
        match quoteRun length with
        | .content =>
            (readLines quote rounds after).map
              (fun (content, rest) => (List.replicate length quote ++ content, rest))
        | .close quotes => some (List.replicate quotes quote, after)
        | .tooLong => none
      else if c = '\\' ∧ quote = '"' then
        match joinLines? rest with
        | some rest => readLines quote rounds rest
        | none => do
            let (c, rest) ← readEscape rest
            let (content, rest) ← readLines quote rounds rest
            some (c :: content, rest)
      else match newline? (c :: rest) with
        | some rest =>
            (readLines quote rounds rest).map (fun (content, rest) => ('\n' :: content, rest))
        | none =>
            if isTextChar c then
              (readLines quote rounds rest).map (fun (content, rest) => (c :: content, rest))
            else none

/-- A line end right behind the opening quotes does not count. -/
def readText (text : List Char) : Option (List Char × List Char) :=
  match text with
  | '"' :: '"' :: '"' :: rest => readLines '"' text.length ((newline? rest).getD rest)
  | '\'' :: '\'' :: '\'' :: rest => readLines '\'' text.length ((newline? rest).getD rest)
  | '"' :: rest => readBasic text.length rest
  | '\'' :: rest => readLiteral rest
  | _ => none

/-- Digits that continue a number; an underscore may stand between two of them. -/
def moreDigits (isDigit : Char → Bool) : List Char → List Char × List Char
  | [] => ([], [])
  | '_' :: c :: rest =>
      if isDigit c then
        let (digits, rest) := moreDigits isDigit rest
        (c :: digits, rest)
      else ([], '_' :: c :: rest)
  | c :: rest =>
      if isDigit c then
        let (digits, rest) := moreDigits isDigit rest
        (c :: digits, rest)
      else ([], c :: rest)

def readDigits (isDigit : Char → Bool) : List Char → Option (List Char × List Char)
  | [] => none
  | c :: rest => if isDigit c then some (moreDigits isDigit (c :: rest)) else none

def readWhole (text : List Char) : Option (List Char × List Char) :=
  match text with
  | '0' :: rest => some (['0'], rest)
  | text => readDigits Char.isDigit text

def valueIn (base : Nat) (digits : List Char) : Nat :=
  digits.foldl (fun value c => value * base + (hexDigit? c).getD 0) 0

def fits (number : Int) : Bool :=
  Int64.minValue.toInt ≤ number && number ≤ Int64.maxValue.toInt

def readBased (base : Nat) (text : List Char) : Option (Int × List Char) := do
  let (digits, rest) ← readDigits (fun c => (hexDigit? c).any (· < base)) text
  let number : Int := valueIn base digits
  if fits number then some (number, rest) else none

/-- Whether digits with a power of ten are past the largest float: they do not round to less than
`2 ^ 1024`. -/
def overflows (digits : List Char) (exponent : Int) : Bool :=
  let digits := digits.dropWhile (· = '0')
  let size : Int := digits.length + exponent
  if digits.isEmpty || size < 300 then false
  else if 320 < size then true
  else
    let value := valueIn 10 digits
    let limit := Nat.pow 2 1024 - Nat.pow 2 970
    if 0 ≤ exponent then limit ≤ value * Nat.pow 10 exponent.toNat
    else limit * Nat.pow 10 exponent.natAbs ≤ value

def readExponent (text : List Char) : Option (Int × List Char) := do
  let (sign, text) : Int × List Char := match text with
    | '+' :: rest => (1, rest)
    | '-' :: rest => (-1, rest)
    | text => (1, text)
  let (digits, rest) ← readDigits Char.isDigit text
  some (sign * valueIn 10 digits, rest)

inductive Number
  | integer (number : Int)
  | float
deriving DecidableEq, Repr

def readDecimal (isNegative : Bool) (text : List Char) : Option (Number × List Char) := do
  let (whole, text) ← readWhole text
  let (fraction?, text) ← match text with
    | '.' :: rest => (readDigits Char.isDigit rest).map (fun (digits, rest) => (some digits, rest))
    | text => some (none, text)
  let (exponent?, text) ← match text with
    | 'e' :: rest => (readExponent rest).map (fun (exponent, rest) => (some exponent, rest))
    | 'E' :: rest => (readExponent rest).map (fun (exponent, rest) => (some exponent, rest))
    | text => some (none, text)
  if fraction?.isNone && exponent?.isNone then
    let size : Int := valueIn 10 whole
    let number := if isNegative then -size else size
    if fits number then some (.integer number, text) else none
  else
    let fraction := fraction?.getD []
    let exponent := exponent?.getD 0 - fraction.length
    if !isNegative && overflows (whole ++ fraction) exponent then none else some (.float, text)

def readSigned (isNegative : Bool) : List Char → Option (Number × List Char)
  | 'i' :: 'n' :: 'f' :: rest => some (.float, rest)
  | 'n' :: 'a' :: 'n' :: rest => some (.float, rest)
  | text => readDecimal isNegative text

def readNumber : List Char → Option (Number × List Char)
  | '0' :: 'x' :: rest => (readBased 16 rest).map (fun (n, rest) => (.integer n, rest))
  | '0' :: 'o' :: rest => (readBased 8 rest).map (fun (n, rest) => (.integer n, rest))
  | '0' :: 'b' :: rest => (readBased 2 rest).map (fun (n, rest) => (.integer n, rest))
  | '+' :: rest => readSigned false rest
  | '-' :: rest => readSigned true rest
  | text => readSigned false text

def readPair (least most : Nat) : List Char → Option (Nat × List Char)
  | a :: b :: rest => do
      let value := (← digit? a) * 10 + (← digit? b)
      if least ≤ value ∧ value ≤ most then some (value, rest) else none
  | _ => none

def skipChar (c : Char) : List Char → Option (List Char)
  | [] => none
  | d :: rest => if d = c then some rest else none

def monthLength (year month : Nat) : Nat :=
  if month = 2 then
    if year % 4 = 0 ∧ (year % 100 ≠ 0 ∨ year % 400 = 0) then 29 else 28
  else if month = 4 ∨ month = 6 ∨ month = 9 ∨ month = 11 then 30
  else 31

def skipDate (text : List Char) : Option (List Char) := do
  let (century, text) ← readPair 0 99 text
  let (year, text) ← readPair 0 99 text
  let text ← skipChar '-' text
  let (month, text) ← readPair 1 12 text
  let text ← skipChar '-' text
  let (_, text) ← readPair 1 (monthLength (century * 100 + year) month) text
  some text

/-- A time of day; a minute may have a leap second. -/
def skipTime (text : List Char) : Option (List Char) := do
  let (_, text) ← readPair 0 23 text
  let text ← skipChar ':' text
  let (_, text) ← readPair 0 59 text
  let text ← skipChar ':' text
  let (_, text) ← readPair 0 60 text
  match text with
  | '.' :: c :: rest => if c.isDigit then some (rest.dropWhile Char.isDigit) else none
  | '.' :: [] => none
  | text => some text

def skipOffset (text : List Char) : Option (List Char) :=
  match text with
  | [] => some []
  | c :: rest =>
      if c = 'Z' ∨ c = 'z' then some rest
      else if c = '+' ∨ c = '-' then do
        let (_, text) ← readPair 0 23 rest
        let text ← skipChar ':' text
        let (_, text) ← readPair 0 59 text
        some text
      else some text

/-- A date, a time of day, or both with a letter or a blank between them. -/
def skipMoment (text : List Char) : Option (List Char) :=
  match skipDate text with
  | none => skipTime text
  | some rest =>
      match rest with
      | c :: later =>
          if c = 'T' ∨ c = 't' ∨ c = ' ' then
            match skipTime later with
            | some rest => skipOffset rest
            | none => some rest
          else some rest
      | [] => some []

end TupleSpace.Toml
