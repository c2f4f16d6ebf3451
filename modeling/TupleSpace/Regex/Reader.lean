import TupleSpace.Regex.Bracket

/-!
# Reading expressions

The grammar of expressions, from text to `Expr`. Flags take effect where they stand, up to the
end of the group around them. Alternatives, sequences, groups, repetitions and classes may nest
`nestingLimit` deep.
-/

namespace TupleSpace.Regex

open TupleSpace.Text

namespace Reader

def nestingLimit : Nat := 250

/-- A part of an expression with the depth of its nesting. Only flags cannot be repeated. -/
structure Piece where
  expr : Expr
  depth : Nat
  repeatable : Bool := true

/-- What a reader carries along: the modes in force, and the names in use and the number of the
groups that capture. -/
structure Context where
  modes : Modes := {}
  names : List (List Char) := []
  groups : Nat := 0

/-- The alternatives read so far and the sequence being read, both in reverse. -/
structure Progress where
  finished : List Piece := []
  current : List Piece := []

namespace Piece

/-- Joins pieces; more than one makes a level of nesting. -/
def join (combine : List Expr → Expr) : List Piece → Piece
  | [piece] => { piece with repeatable := true }
  | [] => ⟨.empty, 0, true⟩
  | pieces =>
      ⟨combine (pieces.map (·.expr)), (pieces.map (·.depth)).foldl max 0 + 1, true⟩

end Piece

namespace Progress

def push (progress : Progress) (piece : Piece) : Progress :=
  { progress with current := piece :: progress.current }

def sequence (progress : Progress) : Piece :=
  .join Expr.concat progress.current.reverse

def nextAlternative (progress : Progress) : Progress :=
  ⟨progress.sequence :: progress.finished, []⟩

def finish (progress : Progress) : Piece :=
  .join Expr.alternatives (progress.sequence :: progress.finished).reverse

def repeatLast (progress : Progress) (least : Nat) (greatest : Option Nat) (isLazy : Bool) :
    Option Progress :=
  match progress.current with
  | last :: earlier =>
      if last.repeatable then
        some { progress with
          current := ⟨.rep last.expr least greatest isLazy, last.depth + 1, true⟩ :: earlier }
      else none
  | [] => none

end Progress

/-- A count of a repetition, which has to fit into 32 bits. -/
def count (modes : Modes) (text : List Char) : Option (Nat × List Char) :=
  let (digits, rest) := modes.takeSpaced Char.isDigit false (text.dropWhile isBlank)
  let value := digits.foldl (fun number c => number * 10 + (c.toNat - 48)) 0
  if digits.isEmpty || UInt32.size ≤ value then none
  else some (value, rest.dropWhile isBlank)

def counts (modes : Modes) (text : List Char) : Option ((Nat × Option Nat) × List Char) := do
  let (least, rest) ← count modes (modes.skip text)
  match rest with
  | '\x7d' :: rest => some ((least, some least), rest)
  | ',' :: rest =>
      match modes.skip rest with
      | '\x7d' :: rest => some ((least, none), rest)
      | rest =>
          let (greatest, rest) ← count modes rest
          match rest with
          | '\x7d' :: rest =>
              if greatest < least then none else some ((least, some greatest), rest)
          | _ => none
  | _ => none

/-- A `?` behind a repetition makes it lazy, or greedy where repetitions are lazy by themselves. -/
def laziness (modes : Modes) : List Char → Bool × List Char
  | '?' :: rest => (!modes.swapGreed, rest)
  | rest => (modes.swapGreed, rest)

def isNameStart (c : Char) : Bool :=
  c == '_' || CharSet.letters.contains c

def isNameChar (c : Char) : Bool :=
  isNameStart c || c == '.' || c == '[' || c == ']' || CharSet.numbers.contains c

/-- Reads a group name up to `>`. No two groups share a name. -/
def groupName (names : List (List Char)) (text : List Char) :
    Option (List Char × List Char) :=
  match text.takeWhile (· != '>'), text.dropWhile (· != '>') with
  | first :: others, '>' :: rest =>
      let name := first :: others
      if isNameStart first && others.all isNameChar && !names.contains name then
        some (name, rest)
      else none
  | _, _ => none

inductive Opening
  | directive (modes : Modes)
  | capture (name? : Option (List Char))
  | plain (modes : Modes)

/-- Reads flags, for the group they introduce or, where they stand alone, from there on. -/
def flags (modes : Modes) (text : List Char) : Option (Opening × List Char) :=
  match Modes.readFlags ⟨modes, [], false, false⟩ text with
  | some (read, ')', rest) =>
      if read.seen.isEmpty then none else some (.directive read.modes, rest)
  | some (read, _, rest) => some (.plain read.modes, rest)
  | none => none

/-- Reads what follows `(?`. Looking around is not supported. -/
def extension (context : Context) (text : List Char) : Option (Opening × List Char) :=
  let named (rest : List Char) :=
    (groupName context.names rest).map (fun (name, rest) => (Opening.capture (some name), rest))
  match text with
  | '=' :: _ => none
  | '!' :: _ => none
  | '<' :: '=' :: _ => none
  | '<' :: '!' :: _ => none
  | 'P' :: '<' :: rest => named rest
  | '<' :: rest => named rest
  | rest => flags context.modes rest

def opening (context : Context) (text : List Char) : Option (Opening × List Char) :=
  match context.modes.skip text with
  | '?' :: rest => extension context rest
  | rest => some (.capture none, rest)

/-- A character by itself. Outside Unicode only ASCII letters have another case, and a byte past
ASCII would match a part of a character. -/
def literal (modes : Modes) (c : Char) (isByte : Bool) : Option Expr :=
  if !modes.unicode && isByte && 0x80 ≤ c.toNat then none
  else if !modes.ignoreCase then some (.char c)
  else if modes.unicode then some (.set (CharSet.singleton c).caseClosure true)
  else some (.set (CharSet.singleton c).asciiCaseClosure false)

def dot (modes : Modes) : Option Expr :=
  if !modes.unicode then none
  else if modes.dotAll then some (.set .all true)
  else if modes.crlf then some (.set (CharSet.ofTable ["A D"]).complement true)
  else some (.set (CharSet.singleton '\n').complement true)

def lineLook (modes : Modes) (atStart : Bool) : Expr :=
  .look <| match modes.multiLine, atStart with
    | true, true => .lineStart modes.crlf
    | true, false => .lineEnd modes.crlf
    | false, true => .textStart
    | false, false => .textEnd

def primitive (modes : Modes) : List Char → Option (Expr × List Char)
  | [] => none
  | '\\' :: rest => do
      let (atom, rest) ← Escape.read modes rest
      match atom with
      | .literal c isByte => some (← literal modes c isByte, rest)
      | .members set => some (.set set modes.unicode, rest)
      | .look assertion => some (.look assertion, rest)
  | '.' :: rest => (dot modes).map (fun e => (e, rest))
  | '^' :: rest => some (lineLook modes true, rest)
  | '$' :: rest => some (lineLook modes false, rest)
  | c :: rest => (literal modes c false).map (fun e => (e, rest))

/-- What comes next in an expression. A group is read in a context of its own. -/
inductive Token
  | finish
  | alternative
  | repetition (least : Nat) (greatest : Option Nat) (isLazy : Bool)
  | part (piece : Piece)
  | directive (modes : Modes)
  | group (number? : Option Nat) (inner : Context)

/-- Groups that capture are numbered in the order of their opening parentheses. -/
def Opening.token (context : Context) : Opening → Token
  | directive modes => .directive modes
  | capture name? =>
      let number := context.groups + 1
      .group (some number)
        { context with names := name?.toList ++ context.names, groups := number }
  | plain modes => .group none { context with modes }

def repetition (modes : Modes) (least : Nat) (greatest : Option Nat) (text : List Char) :
    Token × List Char :=
  let (isLazy, rest) := laziness modes text
  (.repetition least greatest isLazy, rest)

/-- A closing parenthesis finishes an expression as the end of the text does, and is left. -/
def token (context : Context) (text : List Char) : Option (Token × List Char) :=
  let modes := context.modes
  match modes.skip text with
  | [] => some (.finish, [])
  | ')' :: rest => some (.finish, ')' :: rest)
  | '|' :: rest => some (.alternative, rest)
  | '?' :: rest => some (repetition modes 0 (some 1) rest)
  | '*' :: rest => some (repetition modes 0 none rest)
  | '+' :: rest => some (repetition modes 1 none rest)
  | '\x7b' :: rest =>
      (counts modes rest).map
        (fun ((least, greatest), rest) => repetition modes least greatest (modes.skip rest))
  | '[' :: rest =>
      (Bracket.read modes rest).map
        (fun ((set, depth), rest) => (.part ⟨.set set modes.unicode, depth, true⟩, rest))
  | '(' :: rest => (opening context rest).map (fun (found, rest) => (found.token context, rest))
  | text => (primitive modes text).map (fun (e, rest) => (.part ⟨e, 0, true⟩, rest))

/-- Reads alternatives up to the end of the text or to a closing parenthesis. Each round consumes
a character. -/
def expression : Nat → Context → Progress → List Char → Option (Piece × Context × List Char)
  | 0, _, _, _ => none
  | rounds + 1, context, progress, text =>
      match token context text with
      | none => none
      | some (.finish, rest) => some (progress.finish, context, rest)
      | some (.alternative, rest) => expression rounds context progress.nextAlternative rest
      | some (.repetition least greatest isLazy, rest) =>
          match progress.repeatLast least greatest isLazy with
          | some progress => expression rounds context progress rest
          | none => none
      | some (.part piece, rest) => expression rounds context (progress.push piece) rest
      | some (.directive modes, rest) =>
          expression rounds { context with modes } (progress.push ⟨.empty, 0, false⟩) rest
      | some (.group number? inner, rest) =>
          match expression rounds inner {} rest with
          | some (piece, after, ')' :: rest) =>
              expression rounds { after with modes := context.modes }
                (progress.push ⟨.group number? piece.expr, piece.depth + 1, true⟩) rest
          | _ => none

end Reader

def Expr.read? (text : List Char) : Option Expr :=
  match Reader.expression (text.length + 1) {} {} text with
  | some (piece, _, []) => if piece.depth ≤ Reader.nestingLimit then some piece.expr else none
  | _ => none

end TupleSpace.Regex
