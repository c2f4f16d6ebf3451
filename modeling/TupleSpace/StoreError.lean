import TupleSpace.Tuple

/-!
# Refusals by a replica

The ways in which a replica turns a request down. They travel back to the client as data.
-/

namespace TupleSpace

structure ClientId where
  number : UInt32
deriving DecidableEq, Repr, Inhabited, Hashable

namespace ClientId

def text (client : ClientId) : String := toString client.number.toNat

end ClientId

inductive StoreError
  | invalidTuple (text : String)
  | invalidPattern (source : String)
  /-- The client asked to remove a tuple that it does not hold. -/
  | notHolder (tuple : String) (client : ClientId)
  /-- A numbered operation came after its number was used, and is not its repetition. -/
  | staleSequence (number next : Nat)
deriving DecidableEq, Repr, Inhabited

namespace StoreError

def isValidation : StoreError → Bool
  | invalidTuple _ | invalidPattern _ => true
  | notHolder _ _ | staleSequence _ _ => false

def message : StoreError → String
  | invalidTuple text => "invalid tuple: " ++ text
  | invalidPattern source => "invalid search pattern: " ++ source
  | notHolder tuple client =>
      "client " ++ client.text ++ " does not hold a reservation on " ++ tuple
  | staleSequence number next =>
      "sequence number " ++ toString number ++ " already applied (next expected " ++
        toString next ++ ")"

end StoreError

instance decidableEqExcept {ε α : Type} [DecidableEq ε] [DecidableEq α] :
    DecidableEq (Except ε α)
  | .ok left, .ok right => decidable_of_iff (left = right) (by simp)
  | .error left, .error right => decidable_of_iff (left = right) (by simp)
  | .ok _, .error _ => isFalse (by simp)
  | .error _, .ok _ => isFalse (by simp)

def checkTuple (text : String) : Except StoreError Unit :=
  if isBracketed text then .ok () else .error (.invalidTuple text)

end TupleSpace
