import TupleSpace.Regex.Encoding
import TupleSpace.Regex.Normal
import TupleSpace.Regex.Slots

/-!
# How large a compiled expression is

An expression is accepted only if its automaton over UTF-8 bytes stays within ten mebibytes, read
forwards and read backwards. The automaton is laid out state by state, though only the count of
states and bytes is kept: a state costs `stateBytes`, each byte range out of it `rangeBytes`, and
each way out of a branching state `branchBytes`. A count that passes the limit ends there, so
repetitions stay cheap however much they multiply.

States of a set are shared through a table with a fixed number of slots. Which of them collide
hangs on the numbers of the states they lead to, hence on all that was laid out before.
-/

namespace TupleSpace.Regex

namespace Footprint

def stateBytes : Nat := 32

def rangeBytes : Nat := 8

def branchBytes : Nat := 4

def limit : Nat := 10 * 1024 * 1024

inductive Direction
  | forward
  | backward
deriving DecidableEq, Repr, Inhabited

/-- A part of an automaton laid out so far. States are numbered in the order of their layout. -/
structure Tally where
  states : Nat := 0
  bytes : Nat := 0
deriving DecidableEq, Repr, Inhabited

def Tally.grow? (tally : Tally) (states edgeBytes : Nat) : Option Tally :=
  let bytes := tally.bytes + stateBytes * states + edgeBytes
  if bytes ≤ limit then some ⟨tally.states + states, bytes⟩ else none

structure Layout where
  lay : Tally → Option Tally

namespace Layout

def states (count edgeBytes : Nat) : Layout := ⟨fun tally => tally.grow? count edgeBytes⟩

def pass : Layout := states 1 0

def fork : Layout := states 1 (2 * branchBytes)

def andThen (first second : Layout) : Layout :=
  ⟨fun tally => match first.lay tally with
    | some tally => second.lay tally
    | none => none⟩

def times (count : Nat) (body : Layout) : Layout := ⟨go count⟩
where
  go : Nat → Tally → Option Tally
    | 0, tally => some tally
    | count + 1, tally =>
        match body.lay tally with
        | some tally => go count tally
        | none => none

/-- Copies one after the other. No copy at all still takes a state. -/
def exactly (count : Nat) (body : Layout) : Layout :=
  if count = 0 then pass else body.times count

/-- A repetition. If the body may match empty text, going on has to be told apart from going in. -/
def rep (consumes : Bool) (least : Nat) (greatest : Option Nat) (body : Layout) : Layout :=
  match least, greatest with
  | 0, some 1 => (fork.andThen body).andThen pass
  | 0, none =>
      if consumes then fork.andThen body
      else ((body.andThen fork).andThen fork).andThen pass
  | least, none => (body.times least).andThen fork
  | least, some greatest =>
      if least = greatest then exactly least body
      else ((exactly least body).andThen pass).andThen
        ((fork.andThen body).times (greatest - least))

/-- Alternatives, which part at one state and meet at another. These two follow the second of the
alternatives. -/
def choice : List Layout → Layout
  | [] => states 2 0
  | [only] => only
  | first :: second :: rest =>
      let ways := branchBytes * (rest.length + 2)
      rest.foldl andThen ((first.andThen second).andThen (states 2 ways))

end Layout

def cutAtEmpty : List (List Nat) → List (List (List Nat))
  | [] => [[]]
  | [] :: rest => [] :: cutAtEmpty rest
  | word :: rest =>
      match cutAtEmpty rest with
      | chunk :: chunks => (word :: chunk) :: chunks
      | [] => [[word]]

/-- Words that end here before any other goes on count once. -/
def dropRepeatedEnds : List (List Nat) → List (List Nat)
  | [] :: rest => [] :: rest.dropWhile List.isEmpty
  | words => words

/-- The states of a tree of words, and the bytes of their ways out. Words branch by their next
byte, but not across a word that ends between them, since earlier words go first. A word of the
greatest length ends after `depth` bytes. -/
def wordTree : (depth : Nat) → List (List Nat) → Nat × Nat
  | 0, _ => (0, 0)
  | depth + 1, words =>
      if words.all List.isEmpty then (0, 0)
      else
        let chunks := cutAtEmpty (dropRepeatedEnds words)
        let stretches := chunks.filter (!·.isEmpty)
        let ways := stretches.length + (chunks.length - 1)
        let sizes := stretches.flatMap fun stretch =>
          let heads := (stretch.filterMap List.head?).eraseDups
          let edges := if heads.length = 1 then 0 else rangeBytes * heads.length
          (1, edges) :: heads.map fun head =>
            wordTree depth ((stretch.filter (·.head? == some head)).map List.tail)
        sizes.foldl (fun total size => (total.1 + size.1, total.2 + size.2))
          (1, branchBytes * ways)

/-- Mixes numbers into one of 64 bits, each by an exclusive or and a multiplication. -/
def mix (numbers : List Nat) : UInt64 :=
  numbers.foldl (fun mixed number => (mixed ^^^ number.toUInt64) * 1099511628211)
    14695981039346656037

def slotOf (count : Nat) (key : List Nat) : Nat := (mix key).toNat % count

structure Sharing where
  tally : Tally
  known : Slots (List Nat × Nat) := .vacant

namespace Sharing

def forwardSlots : Nat := 10000

def backwardSlots : Nat := 1000

/-- Finds the state with a key, or adds one, which takes its slot from any other. Returns the number
of the state. -/
def state (count : Nat) (key : List Nat) (edgeBytes : Nat) (sharing : Sharing) :
    Option (Nat × Sharing) :=
  let slot := slotOf count key
  match (sharing.known.get? slot).filter (fun entry => entry.1 == key) with
  | some (_, number) => some (number, sharing)
  | none => do
      let number := sharing.tally.states
      let tally ← sharing.tally.grow? 1 edgeBytes
      some (number, ⟨tally, sharing.known.put 14 slot (key, number)⟩)

/-- Lays out the states that read ascending sequences up to a final state. A state is told apart
by its byte ranges and the states behind them. -/
def forward (final : Nat) : (depth : Nat) → List (List CodeRange) → Sharing →
    Option (Nat × Sharing)
  | 0, _, sharing => some (final, sharing)
  | depth + 1, sequences, sharing =>
      match Encoding.byFirst sequences with
      | [] => some (final, sharing)
      | groups => do
          let (key, sharing) ← groups.foldlM
            (fun (key, sharing) (range, tails) => do
              let (next, sharing) ← forward final depth tails sharing
              some (next :: range.high :: range.low :: key, sharing))
            ([], sharing)
          sharing.state forwardSlots key.reverse (rangeBytes * groups.length)

/-- Lays out the states that read a sequence backwards, from its first byte range on: a state is
told apart by its byte range and the state behind it. -/
def backward (final : Nat) (sharing : Sharing) (sequence : List CodeRange) : Option Sharing := do
  let (_, sharing) ← sequence.foldlM
    (fun (next, sharing) range =>
      sharing.state backwardSlots [next, range.low, range.high] 0)
    (final, sharing)
  some sharing

end Sharing

namespace Layout

/-- A set. ASCII takes one state however many ranges it has. -/
def set (direction : Direction) (members : CharSet) : Layout :=
  if members.ranges.all (fun range => range.high < 0x80) then
    states 2 (rangeBytes * members.ranges.length)
  else
    let sequences := Encoding.sequences members
    match direction with
    | .forward => ⟨fun tally => do
        let (_, sharing) ← Sharing.forward tally.states 4 sequences ⟨← tally.grow? 1 0, .vacant⟩
        some sharing.tally⟩
    | .backward => ⟨fun tally => do
        let start : Sharing := ⟨← tally.grow? 2 (branchBytes * sequences.length), .vacant⟩
        let sharing ← sequences.foldlM (Sharing.backward (tally.states + 1)) start
        some sharing.tally⟩

def words (direction : Direction) (texts : List (List Char)) : Layout :=
  let bytes := texts.map fun text =>
    let bytes := text.flatMap (fun c => Encoding.utf8 c.toNat)
    match direction with
    | .forward => bytes
    | .backward => bytes.reverse
  let (count, edgeBytes) := wordTree ((bytes.map List.length).foldl max 0) bytes
  states (count + 1) edgeBytes

end Layout

def text? : Normal → Option (List Char)
  | .literal text => some text
  | _ => none

def layouts (direction : Direction) : Normal → List Layout
  | .empty => [.pass]
  | .literal text => [.states (text.flatMap (fun c => Encoding.utf8 c.toNat)).length 0]
  | .set members _ => [.set direction members]
  | .look _ => [.pass]
  | .rep body least greatest _ =>
      let consumes := body.minLength?.any (0 < ·)
      [.rep consumes least greatest (joined body (layouts direction body))]
  | .capture _ body =>
      let inner := joined body (layouts direction body)
      match direction with
      | .forward => [(Layout.pass.andThen inner).andThen .pass]
      | .backward => [inner]
  | .seq a b =>
      let first := joined a (layouts direction a)
      let second := joined b (layouts direction b)
      match direction with
      | .forward => [first.andThen second]
      | .backward => [second.andThen first]
  | .alt a b => layouts direction a ++ layouts direction b
where
  /-- Alternatives that are all texts share their beginnings. -/
  joined (e : Normal) (layouts : List Layout) : Layout :=
    match layouts with
    | [only] => only
    | several =>
        match e.branches.mapM text? with
        | some texts => .words direction texts
        | none => .choice several

/-- The automaton around an expression: the way in, the group of the whole match and the accepting
state. Unless a match has to start at the end that is read first, the way in is a loop over any
bytes. -/
def automaton (direction : Direction) (e : Normal) : Layout :=
  let body := layouts.joined direction e (layouts direction e)
  let anchored := match direction with
    | .forward => e.opensWith .textStart
    | .backward => e.closesWith .textEnd
  let entry := if anchored then Layout.pass else .states 3 (2 * branchBytes + rangeBytes)
  let marked := match direction with
    | .forward => (Layout.pass.andThen body).andThen .pass
    | .backward => body
  (entry.andThen marked).andThen .pass

def fits (e : Expr) : Bool :=
  let normal := e.normalize
  ((automaton .forward normal).lay {}).isSome && ((automaton .backward normal).lay {}).isSome

end Footprint

end TupleSpace.Regex
