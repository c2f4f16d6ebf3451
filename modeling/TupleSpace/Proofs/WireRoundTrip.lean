import Mathlib.Data.List.Nodup
import TupleSpace.Message.Wire
import TupleSpace.Proofs.WrittenJson

/-!
# Messages that arrive as they were sent

Every request and every reply is written so that it fits on a line and is read as the same message,
as long as its numbers are such as the other side can read.
-/

namespace TupleSpace

open TupleSpace.Json

namespace Request

def Fits : Request → Prop
  | sequencedPut _ number | sequencedTake _ number => number < UInt64.size
  | _ => True

end Request

namespace StoreError

def Fits : StoreError → Prop
  | staleSequence number next => number < UInt64.size ∧ next < UInt64.size
  | _ => True

end StoreError

namespace Reply

def Fits : Reply → Prop
  | .ok _ => True
  | .error cause => cause.Fits

end Reply

namespace Wire

theorem map_m_written {α β γ : Type} {read : α → Option β} {write : γ → α} (out : γ → β)
    {list : List γ} (each : ∀ item ∈ list, read (write item) = some (out item)) :
    (list.map write).mapM read = some (list.map out) := by
  induction list with
  | nil => rfl
  | cons item rest induction =>
      have first := each item List.mem_cons_self
      have later := induction fun item member => each item (List.mem_cons_of_mem _ member)
      simp [first, later]

theorem string_written (text : String) : string? (.text (some text.toList)) = some text := by
  simp [string?]

theorem number_written {bound number : Nat} (below : number < bound) :
    number? bound (.number (encodeNumber number)) = some number := by
  simp [number?, natural_number, below]

theorem client_written (client : ClientId) :
    client? (.number (encodeNumber client.number.toNat)) = some client := by
  rw [client?, number_written client.number.toNat_lt]
  simp

theorem sequence_written {number : Nat} (fits : number < UInt64.size) :
    sequence? (.number (encodeNumber number)) = some number := number_written fits

theorem strings_written (texts : List String) :
    strings? (.array (texts.map fun text => .text (some text.toList))) = some texts := by
  rw [strings?, map_m_written id fun text _ => string_written text, List.map_id]

theorem fields_written (members : List (String × Value))
    (distinct : (members.map (·.1)).Nodup) :
    fields? (members.map (·.1)) (.object (members.map fun member =>
      (some member.1.toList, member.2))) = some (members.map (·.2)) := by
  have keys : (members.map fun member => (some member.1.toList, member.2)).mapM (·.1) =
      some (members.map (·.1.toList)) := map_m_written _ fun _ _ => rfl
  unfold fields?
  simp only [keys, Option.bind_eq_bind, Option.bind_some]
  refine map_m_written _ fun member inside => ?_
  obtain ⟨before, behind, rfl⟩ := List.append_of_mem inside
  rw [List.map_append, List.map_cons, List.nodup_append, List.nodup_cons] at distinct
  obtain ⟨_, ⟨later, _⟩, earlier⟩ := distinct
  have first : before.filter (fun other => other.1.toList == member.1.toList) = [] := by
    rw [List.filter_eq_nil_iff]
    intro other here
    have apart := earlier other.1 (List.mem_map_of_mem here) member.1 List.mem_cons_self
    simpa [String.toList_inj] using apart
  have last : behind.filter (fun other => other.1.toList == member.1.toList) = [] := by
    rw [List.filter_eq_nil_iff]
    intro other there same
    have equal : other.1 = member.1 := by simpa [String.toList_inj] using same
    exact later (equal ▸ List.mem_map_of_mem there)
  rw [List.zip_map', List.filter_map]
  simp [Function.comp_def, first, last]

theorem field_written (key : String) (value : Value) :
    fields? [key] (.object [(some key.toList, value)]) = some [value] :=
  fields_written [(key, value)] (List.nodup_singleton key)

theorem two_fields_written {key other : String} (apart : key ≠ other) (value second : Value) :
    fields? [key, other] (.object [(some key.toList, value), (some other.toList, second)]) =
      some [value, second] :=
  fields_written [(key, value), (other, second)] (List.nodup_cons.mpr
    ⟨by simpa using apart, List.nodup_singleton other⟩)

theorem alternative_written (tag : String) (content : Value) :
    alternative? (.object [(some tag.toList, content)]) = some (tag, some content) := by
  simp [alternative?]

theorem writes_string (text : String) :
    Writes (encodeString text) (.text (some text.toList)) := writes_text text.toList

theorem writes_texts (texts : List String) :
    Writes (encodeTexts texts) (.array (texts.map fun text => .text (some text.toList))) := by
  have items := writes_array (texts.map fun text : String =>
    (encodeText text.toList, Value.text (some text.toList))) (by
      intro item member
      obtain ⟨text, _, rfl⟩ := List.mem_map.mp member
      exact writes_text text.toList)
  simpa [encodeTexts, Function.comp_def] using items

theorem writes_tagged (tag : String) {content : List Char} {value : Value}
    (written : Writes content value) :
    Writes (encodeTagged tag content) (.object [(some tag.toList, value)]) :=
  writes_object [(tag, content, value)] (by
    intro member inside
    cases List.mem_singleton.mp inside
    exact written)

theorem writes_field {key : String} {content : List Char} {value : Value}
    (written : Writes content value) :
    Writes (encodeObject [(key, content)]) (.object [(some key.toList, value)]) :=
  writes_tagged key written

theorem writes_fields {key other : String} {content more : List Char} {value second : Value}
    (written : Writes content value) (also : Writes more second) :
    Writes (encodeObject [(key, content), (other, more)])
      (.object [(some key.toList, value), (some other.toList, second)]) :=
  writes_object [(key, content, value), (other, more, second)] (by
    intro member inside
    rcases List.mem_cons.mp inside with rfl | last
    · exact written
    · cases List.mem_singleton.mp last
      exact also)

end Wire

namespace Request

open Wire

theorem of_tagged {tag : String} (other : tag ≠ "GetState") (content : Value) :
    ofValue? (.object [(some tag.toList, content)]) = ofFields? tag content := by
  simp only [ofValue?, alternative_written, Option.bind_eq_bind, Option.bind_some, if_neg other]

theorem encode_written (request : Request) :
    ∃ value, Writes request.encode value ∧ (request.Fits → ofValue? value = some request) := by
  cases request with
  | put tuple =>
      refine ⟨_, writes_tagged "Put" (writes_field (writes_string tuple)), fun _ => ?_⟩
      rw [of_tagged (by decide)]
      simp only [ofFields?, field_written, string_written, Option.bind_eq_bind, Option.bind_some]
  | read pattern =>
      refine ⟨_, writes_tagged "Read" (writes_field (writes_string pattern)), fun _ => ?_⟩
      rw [of_tagged (by decide)]
      simp only [ofFields?, field_written, string_written, Option.bind_eq_bind, Option.bind_some]
  | reserve pattern client =>
      refine ⟨_, writes_tagged "TakePhase1" (writes_fields (writes_string pattern)
        (writes_number _)), fun _ => ?_⟩
      have apart : "pattern" ≠ "client_id" := by decide
      rw [of_tagged (by decide)]
      simp only [ofFields?, two_fields_written apart, string_written, client_written,
        Option.bind_eq_bind, Option.bind_some]
  | release client =>
      refine ⟨_, writes_tagged "TakePhase1Release" (writes_field (writes_number _)), fun _ => ?_⟩
      rw [of_tagged (by decide)]
      simp only [ofFields?, field_written, client_written, Option.bind_eq_bind, Option.bind_some]
  | commit tuple client =>
      refine ⟨_, writes_tagged "TakePhase2" (writes_fields (writes_string tuple)
        (writes_number _)), fun _ => ?_⟩
      have apart : "tuple" ≠ "client_id" := by decide
      rw [of_tagged (by decide)]
      simp only [ofFields?, two_fields_written apart, string_written, client_written,
        Option.bind_eq_bind, Option.bind_some]
  | state =>
      refine ⟨_, writes_string "GetState", fun _ => ?_⟩
      simp only [ofValue?, alternative?, String.ofList_toList, isEmptyContent,
        Option.bind_eq_bind, Option.bind_some, if_true]
  | sequencedPut tuple number =>
      refine ⟨_, writes_tagged "SequencedPut" (writes_fields (writes_string tuple)
        (writes_number number)), fun fits => ?_⟩
      have apart : "tuple" ≠ "seq" := by decide
      rw [of_tagged (by decide)]
      simp only [ofFields?, two_fields_written apart, string_written, sequence_written fits,
        Option.bind_eq_bind, Option.bind_some]
  | sequencedTake pattern number =>
      refine ⟨_, writes_tagged "SequencedTake" (writes_fields (writes_string pattern)
        (writes_number number)), fun fits => ?_⟩
      have apart : "pattern" ≠ "seq" := by decide
      rw [of_tagged (by decide)]
      simp only [ofFields?, two_fields_written apart, string_written, sequence_written fits,
        Option.bind_eq_bind, Option.bind_some]

end Request

namespace Response

open Wire

theorem of_plain {tag : String} {response : Response} (plain : plain? tag = some response) :
    ofValue? (.text (some tag.toList)) = some response := by
  simp only [ofValue?, alternative?, String.ofList_toList, plain, isEmptyContent,
    Option.bind_eq_bind, Option.bind_some, if_true]

theorem of_tagged {tag : String} (other : plain? tag = none) (content : Value) :
    ofValue? (.object [(some tag.toList, content)]) = ofFields? tag content := by
  simp only [ofValue?, alternative_written, other, Option.bind_eq_bind, Option.bind_some]

theorem encode_written (response : Response) :
    ∃ value, Writes response.encode value ∧ ofValue? value = some response := by
  cases response with
  | put => exact ⟨_, writes_string "Put", of_plain rfl⟩
  | read tuple =>
      refine ⟨_, writes_tagged "Read" (writes_field (writes_string tuple)), ?_⟩
      rw [of_tagged rfl]
      simp only [ofFields?, field_written, string_written, Option.bind_eq_bind, Option.bind_some]
  | reserved tuples =>
      refine ⟨_, writes_tagged "TakePhase1" (writes_field (writes_texts tuples)), ?_⟩
      rw [of_tagged rfl]
      simp only [ofFields?, field_written, strings_written, Option.bind_eq_bind, Option.bind_some]
  | released => exact ⟨_, writes_string "TakePhase1Release", of_plain rfl⟩
  | committed => exact ⟨_, writes_string "TakePhase2", of_plain rfl⟩
  | state tuples =>
      refine ⟨_, writes_tagged "GetState" (writes_field (writes_texts tuples)), ?_⟩
      rw [of_tagged rfl]
      simp only [ofFields?, field_written, strings_written, Option.bind_eq_bind, Option.bind_some]
  | sequencedPut => exact ⟨_, writes_string "SequencedPut", of_plain rfl⟩
  | sequencedTake tuple =>
      refine ⟨_, writes_tagged "SequencedTake" (writes_field (writes_string tuple)), ?_⟩
      rw [of_tagged rfl]
      simp only [ofFields?, field_written, string_written, Option.bind_eq_bind, Option.bind_some]

end Response

namespace StoreError

open Wire

theorem of_invalid_tuple (content : Value) :
    ofValue? (.object [(some "InvalidTuple".toList, content)]) =
      (string? content).bind fun text => some (invalidTuple text) := by
  rw [ofValue?, alternative_written]
  rfl

theorem of_invalid_pattern (content : Value) :
    ofValue? (.object [(some "InvalidPattern".toList, content)]) =
      (string? content).bind fun source => some (invalidPattern source) := by
  rw [ofValue?, alternative_written]
  rfl

theorem of_not_holder (tuple client : Value) :
    ofValue? (.object [(some "NotHolder".toList,
        .object [(some "tuple".toList, tuple), (some "client".toList, client)])]) =
      (string? tuple).bind fun tuple =>
        (client? client).bind fun client => some (notHolder tuple client) := by
  rw [ofValue?, alternative_written]
  rfl

theorem of_stale_sequence (number next : Value) :
    ofValue? (.object [(some "StaleSequence".toList,
        .object [(some "seq".toList, number), (some "next".toList, next)])]) =
      (sequence? number).bind fun number =>
        (sequence? next).bind fun next => some (staleSequence number next) := by
  rw [ofValue?, alternative_written]
  rfl

theorem encode_written (cause : StoreError) :
    ∃ value, Writes cause.encode value ∧ (cause.Fits → ofValue? value = some cause) := by
  cases cause with
  | invalidTuple text =>
      refine ⟨_, writes_tagged "InvalidTuple" (writes_string text), fun _ => ?_⟩
      rw [of_invalid_tuple, string_written, Option.bind_some]
  | invalidPattern source =>
      refine ⟨_, writes_tagged "InvalidPattern" (writes_string source), fun _ => ?_⟩
      rw [of_invalid_pattern, string_written, Option.bind_some]
  | notHolder tuple client =>
      refine ⟨_, writes_tagged "NotHolder" (writes_fields (writes_string tuple)
        (writes_number _)), fun _ => ?_⟩
      rw [of_not_holder, string_written, Option.bind_some, client_written, Option.bind_some]
  | staleSequence number next =>
      refine ⟨_, writes_tagged "StaleSequence" (writes_fields (writes_number number)
        (writes_number next)), fun fits => ?_⟩
      rw [of_stale_sequence, sequence_written fits.1, Option.bind_some, sequence_written fits.2,
        Option.bind_some]

end StoreError

namespace Reply

open Wire

theorem of_ok (content : Value) :
    ofValue? (.object [(some "Ok".toList, content)]) = (Response.ofValue? content).map .ok := by
  rw [ofValue?, alternative_written]
  rfl

theorem of_error (content : Value) :
    ofValue? (.object [(some "Err".toList, content)]) = (StoreError.ofValue? content).map .error := by
  rw [ofValue?, alternative_written]
  rfl

theorem encode_written (reply : Reply) :
    ∃ value, Writes reply.encode value ∧ (reply.Fits → ofValue? value = some reply) := by
  cases reply with
  | ok response =>
      obtain ⟨value, writes, read⟩ := response.encode_written
      refine ⟨_, writes_tagged "Ok" writes, fun _ => ?_⟩
      rw [of_ok, read, Option.map_some]
  | error cause =>
      obtain ⟨value, writes, read⟩ := cause.encode_written
      refine ⟨_, writes_tagged "Err" writes, fun fits => ?_⟩
      rw [of_error, read fits, Option.map_some]

end Reply

end TupleSpace
