import TupleSpace.Text.Blank
import TupleSpace.Regex.CharSet

/-!
# Modes of reading

The switches that `(?flags)` sets, and reading under the verbose one, in which blanks and
comments count for nothing.
-/

namespace TupleSpace.Regex

open TupleSpace.Text

structure Modes where
  ignoreCase : Bool := false
  multiLine : Bool := false
  dotAll : Bool := false
  swapGreed : Bool := false
  unicode : Bool := true
  crlf : Bool := false
  verbose : Bool := false
deriving DecidableEq, Repr, Inhabited

namespace Modes

def set? (modes : Modes) (flag : Char) (value : Bool) : Option Modes :=
  match flag with
  | 'i' => some { modes with ignoreCase := value }
  | 'm' => some { modes with multiLine := value }
  | 's' => some { modes with dotAll := value }
  | 'U' => some { modes with swapGreed := value }
  | 'u' => some { modes with unicode := value }
  | 'R' => some { modes with crlf := value }
  | 'x' => some { modes with verbose := value }
  | _ => none

structure FlagsRead where
  modes : Modes
  seen : List Char := []
  negated : Bool := false
  dangling : Bool := false

/-- Reads flags up to the `:` or `)` behind them, which is the second result. No flag may come
twice, and a `-` needs a flag behind it. -/
def readFlags (read : FlagsRead) : List Char → Option (FlagsRead × Char × List Char)
  | [] => none
  | c :: rest =>
      if c = ':' ∨ c = ')' then
        if read.dangling then none else some (read, c, rest)
      else if read.seen.contains c then none
      else if c = '-' then
        readFlags { read with seen := c :: read.seen, negated := true, dangling := true } rest
      else match read.modes.set? c (!read.negated) with
        | none => none
        | some modes =>
            readFlags { read with modes, seen := c :: read.seen, dangling := false } rest

/-- Drops blanks, and comments that run from `#` to the end of their line. -/
def dropSpace (inComment : Bool) : List Char → List Char
  | [] => []
  | c :: rest =>
      if inComment then dropSpace (c != '\n') rest
      else if isBlank c then dropSpace false rest
      else if c = '#' then dropSpace true rest
      else c :: rest

def skip (modes : Modes) (text : List Char) : List Char :=
  if modes.verbose then dropSpace false text else text

def takeSpaced (modes : Modes) (keep : Char → Bool) (inComment : Bool) :
    List Char → List Char × List Char
  | [] => ([], [])
  | c :: rest =>
      if inComment then takeSpaced modes keep (c != '\n') rest
      else if modes.verbose && isBlank c then takeSpaced modes keep false rest
      else if modes.verbose && c == '#' then takeSpaced modes keep true rest
      else if keep c then
        let (taken, left) := takeSpaced modes keep false rest
        (c :: taken, left)
      else ([], c :: rest)

/-- The next character that counts. At most one `#` is looked past, and not to the end of its
line. -/
def peek (modes : Modes) (text : List Char) : Option Char :=
  if !modes.verbose then text.head?
  else match text.dropWhile isBlank with
    | '#' :: rest => (rest.dropWhile isBlank).head?
    | left => left.head?

end Modes

end TupleSpace.Regex
