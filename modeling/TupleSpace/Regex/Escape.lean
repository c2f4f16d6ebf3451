import TupleSpace.Regex.Modes
import TupleSpace.Regex.Expr

/-!
# Escapes

What a backslash introduces: a character by itself, by name or by number, a class, or an
assertion. Every reader takes the text behind what is already read and returns the rest.
-/

namespace TupleSpace.Regex

open TupleSpace.Text

/-- The smallest parts of an expression. A literal written as `\xHH` stands for a byte where
expressions are not Unicode. -/
inductive Atom
  | literal (c : Char) (isByte : Bool)
  | members (set : CharSet)
  | look (assertion : Look)
deriving DecidableEq, Repr, Inhabited

namespace Escape

def scalar? (code : Nat) : Option Char :=
  if code.isValidChar then some (Char.ofNat code) else none

def hexNumber? (digits : List Char) : Option Nat :=
  digits.foldlM (fun number c => (CharSet.hexValue? c).map (number * 16 + ·)) 0

def hexDigits (modes : Modes) : Nat → List Char → Option (List Char × List Char)
  | 0, text => some ([], text)
  | _ + 1, [] => none
  | count + 1, c :: rest =>
      if (CharSet.hexValue? c).isSome then
        (hexDigits modes count (modes.skip rest)).map (fun (digits, left) => (c :: digits, left))
      else none

/-- A character by number: a fixed count of digits, or any count between braces. -/
def hexadecimal (modes : Modes) (kind : Char) (text : List Char) :
    Option (Atom × List Char) :=
  match modes.skip text with
  | '\x7b' :: rest =>
      match modes.takeSpaced (· != '\x7d') false rest with
      | (digits, '\x7d' :: left) => do
          if digits.isEmpty then none
          let c ← scalar? (← hexNumber? digits)
          some (.literal c false, modes.skip left)
      | _ => none
  | text => do
      let count := if kind = 'x' then 2 else if kind = 'u' then 4 else 8
      let (digits, left) ← hexDigits modes count text
      let c ← scalar? (← hexNumber? digits)
      some (.literal c (kind == 'x'), left)

def splitAt? (separator : List Char) : List Char → Option (List Char × List Char)
  | [] => none
  | c :: rest =>
      if separator.isPrefixOf (c :: rest) then some ([], (c :: rest).drop separator.length)
      else (splitAt? separator rest).map (fun (before, behind) => (c :: before, behind))

/-- The class named between the braces of `\p`, and whether `!=` negates it. -/
def namedProperty (name : List Char) : Option (CharSet × Bool) :=
  match splitAt? ['!', '='] name with
  | some (property, value) => (propertyValue? property value).map (fun set => (set, true))
  | none =>
      match splitAt? [':'] name <|> splitAt? ['='] name with
      | some (property, value) => (propertyValue? property value).map (fun set => (set, false))
      | none => (property? name).map (fun set => (set, false))

def propertyName (modes : Modes) (text : List Char) : Option ((CharSet × Bool) × List Char) :=
  match modes.skip text with
  | [] => none
  | '\x7b' :: rest =>
      match modes.takeSpaced (· != '\x7d') false rest with
      | (name, '\x7d' :: left) => (namedProperty name).map (fun named => (named, left))
      | _ => none
  | '\\' :: _ => none
  | letter :: rest => (property? [letter]).map (fun set => ((set, false), modes.skip rest))

def property (modes : Modes) (negated : Bool) (text : List Char) : Option (Atom × List Char) := do
  let ((set, unequal), left) ← propertyName modes text
  if !modes.unicode then none
  let set := if modes.ignoreCase then set.caseClosure else set
  some (.members (if negated != unequal then set.complement else set), left)

/-- Outside Unicode the negated shorthands would match parts of characters, so they are refused. -/
def shorthand (modes : Modes) (c : Char) : Option CharSet :=
  let (unicode, ascii) := match c.toLower with
    | 'd' => (CharSet.decimalDigits, CharSet.asciiDigits)
    | 's' => (CharSet.whiteSpace, CharSet.asciiSpace)
    | _ => (CharSet.wordChars, CharSet.asciiWordChars)
  let negated := c.isUpper
  if modes.unicode then some (if negated then unicode.complement else unicode)
  else if negated then none
  else some ascii

def isBoundaryChar (c : Char) : Bool := c.isAlpha || c == '-'

/-- A brace behind `\b` names a kind of word boundary if a letter or `-` comes first in it;
otherwise it is left for a repetition. -/
def wordBoundary (modes : Modes) (text : List Char) : Option (Look × List Char) :=
  match text with
  | '\x7b' :: rest =>
      match modes.skip rest with
      | [] => none
      | c :: inner =>
          if !isBoundaryChar c then some (.wordBoundary modes.unicode, text)
          else match modes.takeSpaced isBoundaryChar false (c :: inner) with
            | (name, '\x7d' :: left) =>
                match String.ofList name with
                | "start" => some (.wordStart modes.unicode, left)
                | "end" => some (.wordEnd modes.unicode, left)
                | "start-half" => some (.wordStartHalf modes.unicode, left)
                | "end-half" => some (.wordEndHalf modes.unicode, left)
                | _ => none
            | _ => none
  | _ => some (.wordBoundary modes.unicode, text)

/-- ASCII characters other than letters, digits and the two angle brackets stand for themselves
behind a backslash. -/
def escapesItself (c : Char) : Bool :=
  c.toNat < 128 && !c.isAlphanum && c != '<' && c != '>'

def control? : Char → Option Char
  | 'a' => some '\x07'
  | 'f' => some '\x0C'
  | 't' => some '\t'
  | 'n' => some '\n'
  | 'r' => some '\r'
  | 'v' => some '\x0B'
  | _ => none

def simpleLook? (modes : Modes) : Char → Option Look
  | 'A' => some .textStart
  | 'z' => some .textEnd
  | 'B' => some (.notWordBoundary modes.unicode)
  | '<' => some (.wordStart modes.unicode)
  | '>' => some (.wordEnd modes.unicode)
  | _ => none

def read (modes : Modes) : List Char → Option (Atom × List Char)
  | [] => none
  | c :: rest =>
      if c = 'x' ∨ c = 'u' ∨ c = 'U' then hexadecimal modes c rest
      else if c = 'p' ∨ c = 'P' then property modes (c == 'P') rest
      else if ['d', 's', 'w', 'D', 'S', 'W'].contains c then
        (shorthand modes c).map (fun set => (.members set, rest))
      else if escapesItself c then some (.literal c false, rest)
      else if c = 'b' then
        (wordBoundary modes rest).map (fun (assertion, left) => (.look assertion, left))
      else match control? c with
        | some control => some (.literal control false, rest)
        | none => (simpleLook? modes c).map (fun assertion => (.look assertion, rest))

end Escape

end TupleSpace.Regex
