import TupleSpace.StoreError
import TupleSpace.Regex.Footprint
import TupleSpace.Regex.Matcher
import TupleSpace.Regex.Reader

/-!
# Search patterns

A pattern is bracketed text that reads as a regular expression once it is wrapped to be anchored
at both ends of a tuple. The wrapping is textual: a pattern whose parentheses close the wrapper
early, such as `<a)|(?:b>`, leaves its alternatives anchored at one end only.
-/

namespace TupleSpace

open TupleSpace.Regex

def anchoredSource (source : String) : List Char :=
  "^(?:".toList ++ source.toList ++ ")$".toList

/-- The expression of a pattern, if the text is one and its automaton is not too large. -/
def compilePattern? (source : String) : Option Expr :=
  if isBracketed source then (Expr.read? (anchoredSource source)).filter Footprint.fits
  else none

/-- A pattern is its source. The expression is kept beside it so that it is read once. -/
structure Pattern where
  source : String
  expr : Expr
  compiled : compilePattern? source = some expr

namespace Pattern

theorem eq_of_source_eq {p q : Pattern} (same : p.source = q.source) : p = q := by
  cases p with | mk source expr compiled =>
  cases q with | mk _ _ compiled' =>
  cases same
  have := compiled.symm.trans compiled'
  cases this
  rfl

instance : DecidableEq Pattern := fun p q =>
  if same : p.source = q.source then isTrue (eq_of_source_eq same)
  else isFalse (fun equal => same (equal ▸ rfl))

instance : Repr Pattern := ⟨fun p _ => repr p.source⟩

def parse (source : String) : Except StoreError Pattern :=
  match compiled : compilePattern? source with
  | some expr => .ok ⟨source, expr, compiled⟩
  | none => .error (.invalidPattern source)

def hits (pattern : Pattern) (tuple : String) : Bool := pattern.expr.search tuple.toList

end Pattern

def checkPattern (source : String) : Except StoreError Unit :=
  (Pattern.parse source).map (fun _ => ())

end TupleSpace
