import TupleSpace.Registry
import TupleSpace.Replica.Service

/-!
# Clusters

The replicas that were started, and where they listen. A replica that is started at the address
of an earlier one takes its place for everybody who connects from then on.
-/

namespace TupleSpace

structure Node where
  qualifier : String
  service : Service
  /-- Why the replica cannot be reached, if it cannot. -/
  outage? : Option String := none
deriving DecidableEq

structure Cluster where
  first : Nat := 1
  /-- In the order in which they were started. -/
  nodes : List Node := []
  /-- The replica that listens at an address, latest first. -/
  listeners : List (String × Nat) := []
deriving DecidableEq

namespace Cluster

def start (cluster : Cluster) (registry : Registry) (service qualifier address : String) :
    Except NamingError (Registry × Cluster) :=
  (registry.register service qualifier address).map fun registry =>
    (registry,
      { cluster with
        nodes := cluster.nodes ++ [{ qualifier, service := .start cluster.first }]
        listeners := (address, cluster.nodes.length) :: cluster.listeners })

def listener? (cluster : Cluster) (address : String) : Option Nat :=
  cluster.listeners.lookup address

def connect (cluster : Cluster) (descriptor : Descriptor) : Except TransportError Nat :=
  match cluster.listener? descriptor.address with
  | some node => .ok node
  | none =>
      .error (.unreachable descriptor.qualifier ("nothing listening at " ++ descriptor.address))

def setNode (cluster : Cluster) (index : Nat) (node : Node) : Cluster :=
  { cluster with nodes := cluster.nodes.set index node }

end Cluster

end TupleSpace
