import TupleSpace.Registry
import TupleSpace.Sorting

/-!
# Replica sets

A client talks to a fixed set of replicas, sorted by qualifier. Replicas that share a qualifier
stay in the order in which they were found, and a request to that qualifier goes to the first.
-/

namespace TupleSpace

structure Handle where
  descriptor : Descriptor
  node : Nat
  /-- How long a request is held back before it is sent, in milliseconds. -/
  delay : Nat := 0
deriving DecidableEq, Repr, Inhabited

namespace Handle

def qualifier (handle : Handle) : String := handle.descriptor.qualifier

end Handle

structure ReplicaSet where
  handles : List Handle := []
deriving DecidableEq, Repr, Inhabited

namespace ReplicaSet

def ofHandles (handles : List Handle) : ReplicaSet :=
  ⟨Sorting.sort (fun a b => Sorting.nameOrder a.qualifier b.qualifier) handles⟩

def qualifiers (set : ReplicaSet) : List String := set.handles.map (·.qualifier)

def size (set : ReplicaSet) : Nat := set.handles.length

def isEmpty (set : ReplicaSet) : Bool := set.handles.isEmpty

def handle (set : ReplicaSet) (qualifier : String) : Except ClientError Handle :=
  match set.handles.find? (fun handle => handle.qualifier == qualifier) with
  | some handle => .ok handle
  | none => .error (.unknownReplica qualifier)

def handlesOf (set : ReplicaSet) (qualifiers : List String) : Except ClientError (List Handle) :=
  qualifiers.mapM set.handle

def updateFirst {α : Type} (test : α → Bool) (change : α → α) : List α → List α
  | [] => []
  | a :: rest => if test a then change a :: rest else a :: updateFirst test change rest

def setDelay (set : ReplicaSet) (qualifier : String) (delay : Nat) :
    Except ClientError ReplicaSet :=
  (set.handle qualifier).map fun _ =>
    ⟨updateFirst (fun handle => handle.qualifier == qualifier)
      (fun handle => { handle with delay }) set.handles⟩

end ReplicaSet

end TupleSpace
