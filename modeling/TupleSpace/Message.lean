import TupleSpace.StoreError
import TupleSpace.Text.Quoted

/-!
# Requests and responses

The procedures that every replica offers, and what it answers. A reply is the response that
belongs to the request, or a refusal.
-/

namespace TupleSpace

inductive Request
  | put (tuple : String)
  | read (pattern : String)
  /-- First phase of a take: hold whatever the pattern hits. -/
  | reserve (pattern : String) (client : ClientId)
  | release (client : ClientId)
  /-- Second phase of a take: remove one held tuple. -/
  | commit (tuple : String) (client : ClientId)
  | state
  | sequencedPut (tuple : String) (number : Nat)
  | sequencedTake (pattern : String) (number : Nat)
deriving DecidableEq, Repr, Inhabited

namespace Request

def procedure : Request → String
  | put _ => "put"
  | read _ => "read"
  | reserve _ _ => "take phase 1"
  | release _ => "take phase 1 release"
  | commit _ _ => "take phase 2"
  | state => "get state"
  | sequencedPut _ _ => "sequenced put"
  | sequencedTake _ _ => "sequenced take"

def isMutation : Request → Bool
  | read _ | state => false
  | _ => true

end Request

inductive Response
  | put
  | read (tuple : String)
  | reserved (tuples : List String)
  | released
  | committed
  | state (tuples : List String)
  | sequencedPut
  | sequencedTake (tuple : String)
deriving DecidableEq, Repr, Inhabited

abbrev Reply := Except StoreError Response

inductive Expected
  | acknowledgement
  | tuple
  | reservations
  | state
deriving DecidableEq, Repr, Inhabited

namespace Expected

def text : Expected → String
  | acknowledgement => "acknowledgement"
  | tuple => "tuple"
  | reservations => "take phase 1"
  | state => "get state"

end Expected

namespace Response

open TupleSpace.Text

def isAcknowledgement : Response → Bool
  | put | released | committed | sequencedPut => true
  | _ => false

def tuple? : Response → Option String
  | read tuple | sequencedTake tuple => some tuple
  | _ => none

def reserved? : Response → Option (List String)
  | reserved tuples => some tuples
  | _ => none

def state? : Response → Option (List String)
  | state tuples => some tuples
  | _ => none

def described : Response → String
  | put => "Put"
  | read tuple => "Read \x7b result: " ++ quoted tuple ++ " \x7d"
  | reserved tuples => "TakePhase1 \x7b reserved_tuples: " ++ quotedList tuples ++ " \x7d"
  | released => "TakePhase1Release"
  | committed => "TakePhase2"
  | state tuples => "GetState \x7b tuples: " ++ quotedList tuples ++ " \x7d"
  | sequencedPut => "SequencedPut"
  | sequencedTake tuple => "SequencedTake \x7b result: " ++ quoted tuple ++ " \x7d"

end Response

end TupleSpace
