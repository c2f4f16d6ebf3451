import TupleSpace.Regex.Property

/-!
# Regular expressions and what they match

`Spans text e i j` says that the expression matches the characters of `text` from position `i`
up to position `j`. Positions run from `0` to the length of the text, and an assertion sees the
characters on both sides of its position.
-/

namespace TupleSpace.Regex

/-- Assertions about a position. The word assertions come in a Unicode and an ASCII reading. -/
inductive Look
  | textStart
  | textEnd
  | lineStart (crlf : Bool)
  | lineEnd (crlf : Bool)
  | wordBoundary (unicode : Bool)
  | notWordBoundary (unicode : Bool)
  | wordStart (unicode : Bool)
  | wordEnd (unicode : Bool)
  | wordStartHalf (unicode : Bool)
  | wordEndHalf (unicode : Bool)
deriving DecidableEq, Repr, Inhabited

namespace Look

def isWord (unicode : Bool) : Option Char → Bool
  | none => false
  | some c => if unicode then CharSet.wordChars.contains c else CharSet.asciiWordChars.contains c

/-- A pair `\r\n` is one line end, so neither line assertion holds between the two. -/
def holds (before after : Option Char) : Look → Bool
  | textStart => before.isNone
  | textEnd => after.isNone
  | lineStart false => before.isNone || before == some '\n'
  | lineEnd false => after.isNone || after == some '\n'
  | lineStart true =>
      before.isNone || before == some '\n' || (before == some '\r' && after != some '\n')
  | lineEnd true =>
      after.isNone || after == some '\r' || (after == some '\n' && before != some '\r')
  | wordBoundary unicode => isWord unicode before != isWord unicode after
  | notWordBoundary unicode => isWord unicode before == isWord unicode after
  | wordStart unicode => !isWord unicode before && isWord unicode after
  | wordEnd unicode => isWord unicode before && !isWord unicode after
  | wordStartHalf unicode => !isWord unicode before
  | wordEndHalf unicode => !isWord unicode after

def holdsAt (look : Look) (text : List Char) (position : Nat) : Bool :=
  look.holds (if position = 0 then none else text[position - 1]?) text[position]?

end Look

/-- A repetition without a greatest count is unbounded, and a group without a number captures
nothing. What a group captures and whether a repetition is lazy do not matter for whether a text
matches, nor does whether a set was read as one of characters or of bytes. Expressions that
differ in this are compiled apart, though. -/
inductive Expr
  | empty
  | set (members : CharSet) (unicode : Bool)
  | look (assertion : Look)
  | seq (first second : Expr)
  | alt (first second : Expr)
  | rep (body : Expr) (least : Nat) (greatest : Option Nat) (isLazy : Bool)
  | group (number? : Option Nat) (body : Expr)
deriving DecidableEq, Repr, Inhabited

namespace Expr

def concat : List Expr → Expr
  | [] => empty
  | [e] => e
  | e :: rest => seq e (concat rest)

def alternatives : List Expr → Expr
  | [] => empty
  | [e] => e
  | e :: rest => alt e (alternatives rest)

def char (c : Char) : Expr := set (.singleton c) true

end Expr

inductive Spans (text : List Char) : Expr → Nat → Nat → Prop
  | empty {i} (inside : i ≤ text.length) : Spans text .empty i i
  | set {members unicode i c} (here : text[i]? = some c) (member : members.contains c = true) :
      Spans text (.set members unicode) i (i + 1)
  | look {assertion i} (inside : i ≤ text.length) (holds : assertion.holdsAt text i = true) :
      Spans text (.look assertion) i i
  | seq {a b i j k} (first : Spans text a i j) (second : Spans text b j k) :
      Spans text (.seq a b) i k
  | altLeft {a b i j} (left : Spans text a i j) : Spans text (.alt a b) i j
  | altRight {a b i j} (right : Spans text b i j) : Spans text (.alt a b) i j
  | repDone {body greatest isLazy i} (inside : i ≤ text.length) :
      Spans text (.rep body 0 greatest isLazy) i i
  | repOnce {body least greatest isLazy i j k} (once : Spans text body i j)
      (room : greatest ≠ some 0)
      (more : Spans text (.rep body (least - 1) (greatest.map (· - 1)) isLazy) j k) :
      Spans text (.rep body least greatest isLazy) i k
  | group {number? body i j} (inner : Spans text body i j) : Spans text (.group number? body) i j

def Found (e : Expr) (text : List Char) : Prop := ∃ i j, Spans text e i j

def Whole (e : Expr) (text : List Char) : Prop := Spans text e 0 text.length

end TupleSpace.Regex
