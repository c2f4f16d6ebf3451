import TupleSpace.Take.Machine
import TupleSpace.Toml.Reader

/-!
# Client configuration

A configuration is a TOML document. Every setting has a default, and what is not a setting is
passed over. A setting of the wrong type makes the whole configuration invalid.
-/

namespace TupleSpace

open TupleSpace.Toml

/-- How a session removes tuples: by a quorum of reservations, or in a total order. -/
inductive TakeMode
  | quorum
  | sequenced
deriving DecidableEq, Repr, Inhabited

/-- Delays are in milliseconds. -/
structure TakeSettings where
  policy : TakePolicy := {}
  slot : Nat := 1000
  settleDelay : Nat := 500
deriving DecidableEq, Repr, Inhabited

structure Config where
  serviceName : String := "TupleSpaces"
  /-- With a qualifier, only replicas that have it are used. -/
  qualifier? : Option String := none
  /-- How often a command is retried with replicas looked up anew. -/
  callRetries : Nat := 0
  takeMode : TakeMode := .quorum
  firstNumber : Nat := 1
  take : TakeSettings := {}
deriving DecidableEq, Repr, Inhabited

inductive ConfigError
  | unreadable
  | malformed
deriving DecidableEq, Repr, Inhabited

namespace Config

/-- The value of a setting: its default where the setting is missing, and nothing where the item
is of the wrong type. -/
def setting {α : Type} (members : Members) (key : String) (initial : α) (read? : Item → Option α) :
    Option α :=
  match members.lookup key with
  | none => some initial
  | some item => read? item

def text? : Item → Option String
  | .text content => some content
  | _ => none

def number? (bound : Nat) : Item → Option Nat
  | .integer number => if 0 ≤ number ∧ number < bound then some number.toNat else none
  | _ => none

def bool? : Item → Option Bool
  | .bool flag => some flag
  | _ => none

def modeOfName? : String → Option TakeMode
  | "quorum" => some .quorum
  | "sequenced" => some .sequenced
  | _ => none

def isEmptyItem : Item → Bool
  | .array items => items.isEmpty
  | .table _ members => members.isEmpty
  | .tables elements => elements.isEmpty
  | _ => false

/-- A mode is its name, or a table with the name as its only key and nothing under it. -/
def mode? : Item → Option TakeMode
  | .text name => modeOfName? name
  | .table _ [(name, content)] => if isEmptyItem content then modeOfName? name else none
  | _ => none

def takeOfMembers (members : Members) : Option TakeSettings := do
  let initial : TakeSettings := {}
  let maxRetries ← setting members "max_retries" initial.policy.maxRetries (number? UInt32.size)
  let slot ← setting members "slot_ms" initial.slot (number? UInt64.size)
  let settleDelay ← setting members "settle_delay_ms" initial.settleDelay (number? UInt64.size)
  let emptyCounts ←
    setting members "empty_intersection_consumes_budget" initial.policy.emptyCounts bool?
  some ⟨⟨maxRetries, emptyCounts⟩, slot, settleDelay⟩

/-- The settings of a table in the order in which an array lists their values. -/
def takeKeys : List String :=
  ["max_retries", "slot_ms", "settle_delay_ms", "empty_intersection_consumes_budget"]

/-- The table of take settings. An array may give the values instead, in order and without the
last ones. A date or a time of day counts as a table in which nothing is set. -/
def take? : Item → Option TakeSettings
  | .table _ members => takeOfMembers members
  | .moment => takeOfMembers []
  | .array items => takeOfMembers (takeKeys.zip items)
  | .tables elements => takeOfMembers (takeKeys.zip (elements.map (.table .header)))
  | _ => none

def ofMembers (members : Members) : Option Config := do
  let initial : Config := {}
  let serviceName ← setting members "service_name" initial.serviceName text?
  let qualifier? ← setting members "qualifier" initial.qualifier? (fun item => (text? item).map some)
  let callRetries ← setting members "rpc_retries" initial.callRetries (number? UInt32.size)
  let takeMode ← setting members "take_mode" initial.takeMode mode?
  let firstNumber ← setting members "first_sequence" initial.firstNumber (number? UInt64.size)
  let take ← setting members "take" initial.take take?
  some { serviceName, qualifier?, callRetries, takeMode, firstNumber, take }

def parse (text : String) : Except ConfigError Config :=
  match (Toml.read? text.toList).bind ofMembers with
  | some config => .ok config
  | none => .error .malformed

def ofBytes (content : ByteArray) : Except ConfigError Config :=
  match String.fromUTF8? content with
  | some text => parse text
  | none => .error .unreadable

end Config

end TupleSpace
