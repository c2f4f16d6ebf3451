import TupleSpace.Failure
import TupleSpace.Text.Number

/-!
# The name registry

Replicas are found by name: a service stands for the replicas that registered under it, each
with a qualifier and an address. Within a service an address is registered once at most.
-/

namespace TupleSpace

open TupleSpace.Text

structure Address where
  host : List Char
  port : Nat
deriving DecidableEq, Repr, Inhabited

namespace Address

def halves? (text : List Char) : Option (List Char × List Char) :=
  match text.dropWhile (· != ':') with
  | _ :: port => if port.contains ':' then none else some (text.takeWhile (· != ':'), port)
  | [] => none

/-- Checks the form first, then the host, then the port, which is neither zero nor past 16 bits. -/
def parse (text : String) : Except NamingError Address :=
  match halves? text.toList with
  | none => .error (.invalidEntry (.addressFormat text))
  | some (host, port) =>
      if host.isEmpty then .error (.invalidEntry (.missingHost text))
      else match (unsigned? UInt16.size port).filter (0 < ·) with
        | some number => .ok ⟨host, number⟩
        | none => .error (.invalidEntry (.portNumber (String.ofList port)))

end Address

structure Descriptor where
  qualifier : String
  address : String
deriving DecidableEq, Repr, Inhabited

namespace Descriptor

def make (qualifier address : String) : Except NamingError Descriptor :=
  if qualifier.isEmpty then .error (.invalidEntry .emptyQualifier)
  else (Address.parse address).map (fun _ => ⟨qualifier, address⟩)

def text (descriptor : Descriptor) : String :=
  descriptor.qualifier ++ "@" ++ descriptor.address

end Descriptor

/-- The descriptors of each service, in order of registration. -/
structure Registry where
  services : List (String × List Descriptor) := []
deriving DecidableEq, Repr, Inhabited

namespace Registry

def descriptors (registry : Registry) (service : String) : List Descriptor :=
  (registry.services.lookup service).getD []

def assign (service : String) (descriptors : List Descriptor) :
    List (String × List Descriptor) → List (String × List Descriptor)
  | [] => [(service, descriptors)]
  | (name, old) :: rest =>
      if name = service then (name, descriptors) :: rest
      else (name, old) :: assign service descriptors rest

def update (registry : Registry) (service : String) (descriptors : List Descriptor) : Registry :=
  ⟨assign service descriptors registry.services⟩

def register (registry : Registry) (service qualifier address : String) :
    Except NamingError Registry :=
  match Descriptor.make qualifier address with
  | .error e => .error e
  | .ok entry =>
      let entries := registry.descriptors service
      if entries.any (fun other => other.address == address) then
        .error (.alreadyRegistered service qualifier address)
      else .ok (registry.update service (entries ++ [entry]))

def delete (registry : Registry) (service address : String) : Except NamingError Registry :=
  match Address.parse address with
  | .error e => .error e
  | .ok _ =>
      let entries := registry.descriptors service
      if entries.any (fun entry => entry.address == address) then
        .ok (registry.update service (entries.eraseP (fun entry => entry.address == address)))
      else .error (.notRegistered service address)

def lookup (registry : Registry) (service : String) (qualifier? : Option String) :
    List Descriptor :=
  (registry.descriptors service).filter
    (fun entry => qualifier?.all (fun qualifier => entry.qualifier == qualifier))

end Registry

end TupleSpace
