import TupleSpace.Json.Reader
import TupleSpace.Message
import TupleSpace.Registry
import TupleSpace.Text.Blank
import TupleSpace.Text.Number

/-!
# Messages on the wire

Requests and replies travel as JSON, each on a line of its own. An alternative without content
is its name; one with content is an object with the name as its only key. Written fields come in
a fixed order. Readers take fields in any order, skip those they do not know, and also take an
array of just the fields in order.
-/

namespace TupleSpace

open TupleSpace.Json

namespace Wire

def encodeTagged (tag : String) (content : List Char) : List Char :=
  encodeObject [(tag, content)]

def encodeTexts (texts : List String) : List Char :=
  encodeArray (texts.map (fun text => encodeText text.toList))

def encodeString (text : String) : List Char := encodeText text.toList

def string? : Value → Option String
  | .text (some content) => some (String.ofList content)
  | _ => none

def strings? : Value → Option (List String)
  | .array items => items.mapM string?
  | _ => none

/-- A plain integer below a bound, written without sign, fraction or exponent. -/
def number? (bound : Nat) : Value → Option Nat
  | .number digits => (Text.natural? digits).filter (· < bound)
  | _ => none

def client? (value : Value) : Option ClientId :=
  (number? UInt32.size value).map (fun number => ⟨UInt32.ofNat number⟩)

def sequence? (value : Value) : Option Nat := number? UInt64.size value

/-- The values of the named fields: of an object that has each of them once, or of an array that
has just them. -/
def fields? (names : List String) : Value → Option (List Value)
  | .object members => do
      let keys ← members.mapM (·.1)
      names.mapM fun name =>
        match (keys.zip members).filter (fun (key, _) => key == name.toList) with
        | [(_, member)] => some member.2
        | _ => none
  | .array items => if items.length = names.length then some items else none
  | _ => none

/-- The name of an alternative and its content, which is missing if the name stands alone. -/
def alternative? : Value → Option (String × Option Value)
  | .text (some name) => some (String.ofList name, none)
  | .object [(some name, content)] => some (String.ofList name, some content)
  | _ => none

/-- Alternatives without content may be written with an explicit `null`. -/
def isEmptyContent : Option Value → Bool
  | none => true
  | some .null => true
  | some _ => false

end Wire

open Wire

namespace Request

def encode : Request → List Char
  | put tuple => encodeTagged "Put" (encodeObject [("tuple", encodeString tuple)])
  | read pattern => encodeTagged "Read" (encodeObject [("pattern", encodeString pattern)])
  | reserve pattern client =>
      encodeTagged "TakePhase1" (encodeObject [("pattern", encodeString pattern),
        ("client_id", encodeNumber client.number.toNat)])
  | release client =>
      encodeTagged "TakePhase1Release"
        (encodeObject [("client_id", encodeNumber client.number.toNat)])
  | commit tuple client =>
      encodeTagged "TakePhase2" (encodeObject [("tuple", encodeString tuple),
        ("client_id", encodeNumber client.number.toNat)])
  | state => encodeString "GetState"
  | sequencedPut tuple number =>
      encodeTagged "SequencedPut" (encodeObject [("tuple", encodeString tuple),
        ("seq", encodeNumber number)])
  | sequencedTake pattern number =>
      encodeTagged "SequencedTake" (encodeObject [("pattern", encodeString pattern),
        ("seq", encodeNumber number)])

def ofFields? (tag : String) (content : Value) : Option Request :=
  match tag with
  | "Put" => do
      let [tuple] ← fields? ["tuple"] content | none
      some (put (← string? tuple))
  | "Read" => do
      let [pattern] ← fields? ["pattern"] content | none
      some (read (← string? pattern))
  | "TakePhase1" => do
      let [pattern, client] ← fields? ["pattern", "client_id"] content | none
      some (reserve (← string? pattern) (← client? client))
  | "TakePhase1Release" => do
      let [client] ← fields? ["client_id"] content | none
      some (release (← client? client))
  | "TakePhase2" => do
      let [tuple, client] ← fields? ["tuple", "client_id"] content | none
      some (commit (← string? tuple) (← client? client))
  | "SequencedPut" => do
      let [tuple, number] ← fields? ["tuple", "seq"] content | none
      some (sequencedPut (← string? tuple) (← sequence? number))
  | "SequencedTake" => do
      let [pattern, number] ← fields? ["pattern", "seq"] content | none
      some (sequencedTake (← string? pattern) (← sequence? number))
  | _ => none

def ofValue? (value : Value) : Option Request := do
  let (tag, content?) ← alternative? value
  if tag = "GetState" then
    if isEmptyContent content? then some state else none
  else ofFields? tag (← content?)

def decode? (text : List Char) : Option Request := (Json.read? text).bind ofValue?

end Request

namespace Response

def encode : Response → List Char
  | put => encodeString "Put"
  | read tuple => encodeTagged "Read" (encodeObject [("result", encodeString tuple)])
  | reserved tuples =>
      encodeTagged "TakePhase1" (encodeObject [("reserved_tuples", encodeTexts tuples)])
  | released => encodeString "TakePhase1Release"
  | committed => encodeString "TakePhase2"
  | state tuples => encodeTagged "GetState" (encodeObject [("tuples", encodeTexts tuples)])
  | sequencedPut => encodeString "SequencedPut"
  | sequencedTake tuple =>
      encodeTagged "SequencedTake" (encodeObject [("result", encodeString tuple)])

def plain? : String → Option Response
  | "Put" => some put
  | "TakePhase1Release" => some released
  | "TakePhase2" => some committed
  | "SequencedPut" => some sequencedPut
  | _ => none

def ofFields? (tag : String) (content : Value) : Option Response :=
  match tag with
  | "Read" => do
      let [tuple] ← fields? ["result"] content | none
      some (read (← string? tuple))
  | "TakePhase1" => do
      let [tuples] ← fields? ["reserved_tuples"] content | none
      some (reserved (← strings? tuples))
  | "GetState" => do
      let [tuples] ← fields? ["tuples"] content | none
      some (state (← strings? tuples))
  | "SequencedTake" => do
      let [tuple] ← fields? ["result"] content | none
      some (sequencedTake (← string? tuple))
  | _ => none

def ofValue? (value : Value) : Option Response := do
  let (tag, content?) ← alternative? value
  match plain? tag with
  | some response => if isEmptyContent content? then some response else none
  | none => ofFields? tag (← content?)

end Response

namespace StoreError

def encode : StoreError → List Char
  | invalidTuple text => encodeTagged "InvalidTuple" (encodeString text)
  | invalidPattern source => encodeTagged "InvalidPattern" (encodeString source)
  | notHolder tuple client =>
      encodeTagged "NotHolder" (encodeObject [("tuple", encodeString tuple),
        ("client", encodeNumber client.number.toNat)])
  | staleSequence number next =>
      encodeTagged "StaleSequence" (encodeObject [("seq", encodeNumber number),
        ("next", encodeNumber next)])

def ofValue? (value : Value) : Option StoreError := do
  let (tag, content?) ← alternative? value
  let content ← content?
  match tag with
  | "InvalidTuple" => some (invalidTuple (← string? content))
  | "InvalidPattern" => some (invalidPattern (← string? content))
  | "NotHolder" => do
      let [tuple, client] ← fields? ["tuple", "client"] content | none
      some (notHolder (← string? tuple) (← client? client))
  | "StaleSequence" => do
      let [number, next] ← fields? ["seq", "next"] content | none
      some (staleSequence (← sequence? number) (← sequence? next))
  | _ => none

end StoreError

namespace Reply

def encode : Reply → List Char
  | .ok response => encodeTagged "Ok" response.encode
  | .error cause => encodeTagged "Err" cause.encode

def ofValue? (value : Value) : Option Reply := do
  let (tag, content?) ← alternative? value
  let content ← content?
  match tag with
  | "Ok" => (Response.ofValue? content).map .ok
  | "Err" => (StoreError.ofValue? content).map .error
  | _ => none

def decode? (text : List Char) : Option Reply := (Json.read? text).bind ofValue?

end Reply

def Descriptor.encode (descriptor : Descriptor) : List Char :=
  encodeObject [("qualifier", encodeString descriptor.qualifier),
    ("address", encodeString descriptor.address)]

namespace Wire

/-- The lines of a stream, without the line ends, whether `\n` or `\r\n`. A last line needs no
end. -/
def lines (text : List Char) : List (List Char) :=
  go [] text
where
  go (line : List Char) : List Char → List (List Char)
    | [] => if line.isEmpty then [] else [line.reverse]
    | '\n' :: rest => dropReturn line :: go [] rest
    | c :: rest => go (c :: line) rest
  dropReturn : List Char → List Char
    | '\r' :: line => line.reverse
    | line => line.reverse

/-- What a server makes of a stream: the requests up to the first line that is none, and whether
there was such a line. Blank lines are passed over. -/
def requests : List (List Char) → List Request × Bool
  | [] => ([], false)
  | line :: rest =>
      if (Text.trim line).isEmpty then requests rest
      else match Request.decode? line with
        | none => ([], true)
        | some request =>
            let (more, refused) := requests rest
            (request :: more, refused)

end Wire

end TupleSpace
