import TupleSpace.Failure
import TupleSpace.Pattern
import TupleSpace.Text.Number

/-!
# The command language

A command is one line of words between blanks: a verb and its arguments. Tuples and patterns
are single words, so they hold no blanks.
-/

namespace TupleSpace

open TupleSpace.Text

inductive Command
  | put (tuple : String)
  | read (pattern : String)
  | take (pattern : String)
  | state (qualifier : String)
  | sleep (seconds : Nat)
  | setDelay (qualifier : String) (seconds : Nat)
deriving DecidableEq, Repr, Inhabited

namespace Command

def seconds (word : String) : Except ClientError Nat :=
  match unsigned? UInt64.size word.toList with
  | some number => .ok number
  | none => .error (.invalidCommand (.seconds word))

def ofWords (line : String) : List String → Except ClientError Command
  | ["put", tuple] => ((checkTuple tuple).mapError .invalid).map (fun _ => .put tuple)
  | ["read", pattern] => ((checkPattern pattern).mapError .invalid).map (fun _ => .read pattern)
  | ["take", pattern] => ((checkPattern pattern).mapError .invalid).map (fun _ => .take pattern)
  | ["getTupleSpacesState", qualifier] => .ok (.state qualifier)
  | ["sleep", word] => (seconds word).map .sleep
  | ["setdelay", qualifier, word] => (seconds word).map (.setDelay qualifier)
  | _ => .error (.invalidCommand (.unknown (String.ofList (trim line.toList))))

def parse (line : String) : Except ClientError Command :=
  ofWords line ((words line.toList).map String.ofList)

end Command

end TupleSpace
