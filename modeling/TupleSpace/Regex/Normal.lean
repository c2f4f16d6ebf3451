import TupleSpace.Regex.Expr

/-!
# Normal expressions

What is compiled is an expression in its normal form: adjacent characters are one text, sequences
and alternatives are lists, a choice between single characters is a set, and parts that all
alternatives begin with stand in front of the choice. Groups that capture nothing are gone.
-/

namespace TupleSpace.Regex

/-- The first part of a sequence is not a sequence itself, and the first of some alternatives is
not a choice, so that both are lists. -/
inductive Normal
  | empty
  | literal (text : List Char)
  | set (members : CharSet) (unicode : Bool)
  | look (assertion : Look)
  | rep (body : Normal) (least : Nat) (greatest : Option Nat) (isLazy : Bool)
  | capture (number : Nat) (body : Normal)
  | seq (first rest : Normal)
  | alt (first rest : Normal)
deriving DecidableEq, Repr, Inhabited

namespace Normal

def never : Normal := set .empty false

def ofSet (members : CharSet) (unicode : Bool) : Normal :=
  match members.ranges with
  | [] => never
  | [⟨low, high⟩] => if low = high then literal [Char.ofNat low] else set members unicode
  | _ => set members unicode

def parts : Normal → List Normal
  | empty => []
  | seq first rest => first :: rest.parts
  | part => [part]

def ofParts : List Normal → Normal
  | [] => empty
  | [part] => part
  | part :: rest => seq part (ofParts rest)

def prepend : Normal → Normal → Normal
  | literal text, literal more => literal (text ++ more)
  | literal text, seq (literal more) rest => seq (literal (text ++ more)) rest
  | part, empty => part
  | part, rest => seq part rest

def append (a b : Normal) : Normal := a.parts.foldr prepend b

def branches : Normal → List Normal
  | alt first rest => first :: rest.branches
  | branch => [branch]

def ofBranches : List Normal → Normal
  | [] => never
  | [branch] => branch
  | branch :: rest => alt branch (ofBranches rest)

def minLength? : Normal → Option Nat
  | empty => some 0
  | literal text => some text.length
  | set members _ => if members.isEmpty then none else some 1
  | look _ => some 0
  | rep body least _ _ => body.minLength?.map (· * least)
  | capture _ body => body.minLength?
  | seq a b => do some ((← a.minLength?) + (← b.minLength?))
  | alt a b => do some (min (← a.minLength?) (← b.minLength?))

def maxLength? : Normal → Option Nat
  | empty => some 0
  | literal text => some text.length
  | set members _ => if members.isEmpty then none else some 1
  | look _ => some 0
  | rep body _ greatest _ => do some ((← body.maxLength?) * (← greatest))
  | capture _ body => body.maxLength?
  | seq a b => do some ((← a.maxLength?) + (← b.maxLength?))
  | alt a b => do some (max (← a.maxLength?) (← b.maxLength?))

def opensWith (assertion : Look) : Normal → Bool
  | look other => other == assertion
  | rep body least _ _ => least != 0 && body.opensWith assertion
  | capture _ body => body.opensWith assertion
  | seq a b => a.opensWith assertion || (a.maxLength? == some 0 && b.opensWith assertion)
  | alt a b => a.opensWith assertion && b.opensWith assertion
  | _ => false

def closesWith (assertion : Look) : Normal → Bool
  | look other => other == assertion
  | rep body least _ _ => least != 0 && body.closesWith assertion
  | capture _ body => body.closesWith assertion
  | seq a b => b.closesWith assertion || (b.maxLength? == some 0 && a.closesWith assertion)
  | alt a b => a.closesWith assertion && b.closesWith assertion
  | _ => false

def single? : Normal → Option CharSet
  | literal [c] => some (.singleton c)
  | _ => none

def members? : Normal → Option CharSet
  | set members _ => some members
  | _ => none

/-- Alternatives that are single characters, or sets, all of them, come to one set. -/
def merged? (branches : List Normal) : Option CharSet :=
  (branches.mapM single? <|> branches.mapM members?).map CharSet.unions

def commonParts : List Normal → List Normal → Nat
  | a :: as, b :: bs => if a = b then commonParts as bs + 1 else 0
  | _, _ => 0

/-- How many parts all alternatives begin with. Every one has to be a sequence for that. -/
def commonLength : List Normal → Nat
  | seq first rest :: others =>
      others.foldl
        (fun length other => match other with
          | seq a b => min length (commonParts (first :: rest.parts) (a :: b.parts))
          | _ => 0)
        (rest.parts.length + 1)
  | _ => 0

/-- The choice between normal expressions. Each round takes a part off the front of every
alternative, so no more rounds are needed than an expression has parts. -/
def choice : Nat → List Normal → Normal
  | 0, alternatives => ofBranches (alternatives.flatMap branches)
  | rounds + 1, alternatives =>
      match alternatives.flatMap branches with
      | [] => never
      | [only] => only
      | first :: others =>
          match merged? (first :: others) with
          | some members => ofSet members true
          | none =>
              match commonLength (first :: others) with
              | 0 => ofBranches (first :: others)
              | length =>
                  let rests := (first :: others).map fun branch =>
                    ofParts (branch.parts.drop length)
                  (ofParts (first.parts.take length)).append (choice rounds rests)

/-- A body that matches only empty text need not be repeated more than once. -/
def repeated (body : Normal) (least : Nat) (greatest : Option Nat) (isLazy : Bool) : Normal :=
  let (least, greatest) :=
    if body.maxLength? = some 0 then (min least 1, some (min (greatest.getD 1) 1))
    else (least, greatest)
  match least, greatest with
  | 0, some 0 => empty
  | 1, some 1 => body
  | _, _ => rep body least greatest isLazy

def alternatives (rounds : Nat) : Expr → List Normal
  | .empty => [empty]
  | .set members unicode => [ofSet members unicode]
  | .look assertion => [look assertion]
  | .seq a b => [(joined (alternatives rounds a)).append (joined (alternatives rounds b))]
  | .alt a b => alternatives rounds a ++ alternatives rounds b
  | .rep body least greatest isLazy =>
      [(joined (alternatives rounds body)).repeated least greatest isLazy]
  | .group none body => [joined (alternatives rounds body)]
  | .group (some number) body => [capture number (joined (alternatives rounds body))]
where
  joined : List Normal → Normal
    | [only] => only
    | several => choice rounds several

end Normal

def Expr.size : Expr → Nat
  | .seq a b => a.size + b.size + 1
  | .alt a b => a.size + b.size + 1
  | .rep body _ _ _ => body.size + 1
  | .group _ body => body.size + 1
  | _ => 1

def Expr.normalize (e : Expr) : Normal :=
  Normal.alternatives.joined e.size (Normal.alternatives e.size e)

end TupleSpace.Regex
