import Mathlib.Data.List.TakeWhile
import TupleSpace.Proofs.NumberRange

/-!
# Calls over a connection

Messages have no line ends of their own, so that a stream of lines is cut into the messages that
were sent. A call over a connection therefore comes out as a call on the replica itself.
-/

namespace TupleSpace

open TupleSpace.Json

/-! ## Lines -/

namespace Json.Writes

variable {text : List Char} {value : Value}

theorem on_one_line (writes : Writes text value) : ∀ c ∈ text, c ≠ '\n' ∧ c ≠ '\r' := by
  intro c member
  have printable := writes.printable c member
  refine ⟨?_, ?_⟩ <;> rintro rfl <;> revert printable <;> decide

theorem not_blank (writes : Writes text value) : (Text.trim text).isEmpty = false := by
  obtain ⟨c, rest, rfl, visible, ascii, _⟩ := writes.opens
  have shown : Text.isBlank c = false := by
    simp only [Text.isBlank, Bool.or_eq_false_iff, Bool.and_eq_false_iff, decide_eq_false_iff_not,
      beq_eq_false_iff_ne]
    omega
  have kept : (c :: rest).dropWhile Text.isBlank = c :: rest := by
    rw [List.dropWhile_cons, shown]
    rfl
  rw [Text.trim, kept, List.isEmpty_reverse, Bool.eq_false_iff, ne_eq, List.isEmpty_iff,
    List.dropWhile_eq_nil_iff]
  intro blank
  have first := blank c (by simp)
  rw [shown] at first
  cases first

end Json.Writes

namespace Wire

theorem go_line {text : List Char} (whole : ∀ c ∈ text, c ≠ '\n') (line rest : List Char) :
    lines.go line (text ++ '\n' :: rest) =
      lines.dropReturn (text.reverse ++ line) :: lines.go [] rest := by
  induction text generalizing line with
  | nil => rfl
  | cons c more induction =>
      have later := induction (fun c member => whole c (List.mem_cons_of_mem _ member)) (c :: line)
      have step : lines.go line (c :: (more ++ '\n' :: rest)) =
          lines.go (c :: line) (more ++ '\n' :: rest) := by
        rw [lines.go]
        exact whole c List.mem_cons_self
      rw [List.cons_append, step, later]
      simp

theorem drop_return {text : List Char} (plain : ∀ c ∈ text, c ≠ '\r') :
    lines.dropReturn text.reverse = text := by
  unfold lines.dropReturn
  split
  · rename_i line same
    exact absurd rfl (plain '\r' (List.mem_reverse.mp (same ▸ List.mem_cons_self)))
  · exact List.reverse_reverse text

theorem lines_written {texts : List (List Char)}
    (whole : ∀ text ∈ texts, ∀ c ∈ text, c ≠ '\n' ∧ c ≠ '\r') :
    lines (texts.flatMap Connection.line) = texts := by
  unfold lines
  induction texts with
  | nil => rfl
  | cons text rest induction =>
      have first := whole text List.mem_cons_self
      have later := induction fun text member => whole text (List.mem_cons_of_mem _ member)
      have shape : (text :: rest).flatMap Connection.line =
          text ++ '\n' :: rest.flatMap Connection.line := by
        simp [Connection.line]
      rw [shape, go_line fun c member => (first c member).1, later, List.append_nil,
        drop_return fun c member => (first c member).2]

end Wire

/-! ## Messages -/

theorem Request.decode_written {request : Request} (fits : request.Fits) :
    decode? request.encode = some request := by
  obtain ⟨value, writes, read⟩ := request.encode_written
  have whole := writes.read [] nofun
  rw [List.append_nil] at whole
  rw [decode?, whole, Option.bind_some, read fits]

theorem Reply.decode_written {reply : Reply} (fits : reply.Fits) (behind : List Char)
    (blank : ∀ c ∈ behind, isSpace c = true) : decode? (reply.encode ++ behind) = some reply := by
  obtain ⟨value, writes, read⟩ := reply.encode_written
  rw [decode?, writes.read behind blank, Option.bind_some, read fits]

theorem Request.on_one_line (request : Request) : ∀ c ∈ request.encode, c ≠ '\n' ∧ c ≠ '\r' :=
  have ⟨_, writes, _⟩ := request.encode_written
  writes.on_one_line

theorem Reply.on_one_line (reply : Reply) : ∀ c ∈ reply.encode, c ≠ '\n' ∧ c ≠ '\r' :=
  have ⟨_, writes, _⟩ := reply.encode_written
  writes.on_one_line

theorem Wire.requests_written {requests : List Request}
    (fits : ∀ request ∈ requests, request.Fits) :
    Wire.requests (requests.map Request.encode) = (requests, false) := by
  induction requests with
  | nil => rfl
  | cons request rest induction =>
      obtain ⟨value, writes, _⟩ := request.encode_written
      have first := Request.decode_written (fits request List.mem_cons_self)
      have later := induction fun request member => fits request (List.mem_cons_of_mem _ member)
      simp [Wire.requests, writes.not_blank, first, later]

theorem Wire.stream_written (requests : List Request)
    (fits : ∀ request ∈ requests, request.Fits) :
    Wire.requests (Wire.lines (requests.flatMap fun request => Connection.line request.encode)) =
      (requests, false) := by
  have stream : (requests.flatMap fun request => Connection.line request.encode) =
      (requests.map Request.encode).flatMap Connection.line := (List.flatMap_map ..).symm
  rw [stream, lines_written, requests_written fits]
  intro text member
  obtain ⟨request, _, rfl⟩ := List.mem_map.mp member
  exact request.on_one_line

namespace Connection

theorem first_line {text : List Char} (whole : ∀ c ∈ text, c ≠ '\n') :
    firstLine (line text) = line text := by
  induction text with
  | nil => rfl
  | cons c rest induction =>
      have later := induction fun c member => whole c (List.mem_cons_of_mem _ member)
      rw [line] at later ⊢
      rw [List.cons_append, firstLine, if_neg (whole c List.mem_cons_self), later]

theorem receive_written (replica : String) {reply : Reply} (fits : reply.Fits) :
    receive replica (line reply.encode) = .ok reply := by
  have ended : (line reply.encode).isEmpty = false := by simp [line]
  unfold receive
  rw [ended, first_line fun c member => (reply.on_one_line c member).1, line,
    Reply.decode_written fits ['\n'] (by simp [isSpace])]
  rfl

/-- A call over a connection comes out as the call itself. -/
theorem call_written (replica : String) {service : Service} {request : Request}
    (room : service.Fits) (fits : request.Fits)
    (below : (service.answer? request).2.replica.gate.next < UInt64.size) :
    call? replica service request =
      ((service.answer? request).1.map .ok, (service.answer? request).2) := by
  have sent : Wire.requests (Wire.lines (line request.encode)) = ([request], false) := by
    simpa using Wire.stream_written [request] (by simpa using fits)
  unfold call? serve
  rw [sent]
  rcases answer : service.answer? request with ⟨reply?, next⟩
  cases reply? with
  | none => simp [Service.answerAll, answer]
  | some reply =>
      have told : reply.Fits := service.fits_answer room fits below (by rw [answer])
      have read := receive_written replica told
      simp [Service.answerAll, answer, read]

/-- No request has a line end of its own, a stream of requests is read as the requests that were
sent, every reply is read as the reply that was sent, and a call over a connection gives the reply
of the call itself and leaves the replica as that call does. -/
theorem is_transparent :
    (∀ request : Request, ∀ c ∈ request.encode, c ≠ '\n' ∧ c ≠ '\r') ∧
    (∀ requests : List Request, (∀ request ∈ requests, request.Fits) →
      Wire.requests (Wire.lines (requests.flatMap fun request => line request.encode)) =
        (requests, false)) ∧
    (∀ reply : Reply, reply.Fits → Reply.decode? reply.encode = some reply ∧
      ∀ replica, receive replica (line reply.encode) = .ok reply) ∧
    ∀ (replica : String) (service : Service) (request : Request), service.Fits → request.Fits →
      (service.answer? request).2.replica.gate.next < UInt64.size →
      call? replica service request =
        ((service.answer? request).1.map .ok, (service.answer? request).2) := by
  refine ⟨Request.on_one_line, Wire.stream_written, fun reply fits => ⟨?_, ?_⟩, ?_⟩
  · simpa using Reply.decode_written fits [] nofun
  · exact fun replica => receive_written replica fits
  · exact fun replica _ _ room fits below => call_written replica room fits below

/-- Texts with quotes, line ends and control characters, and the largest numbers. -/
theorem is_transparent_of_odd_texts :
    Wire.requests (Wire.lines
        ([Request.sequencedPut "<\"\\\r\n\x01é>" 18446744073709551615, .state].flatMap
          fun request => line request.encode)) =
      ([.sequencedPut "<\"\\\r\n\x01é>" 18446744073709551615, .state], false) ∧
    receive "r" (line (Reply.encode (.error (.staleSequence 18446744073709551615 7)))) =
      .ok (.error (.staleSequence 18446744073709551615 7)) ∧
    (call? "r" (Service.start 7) (.sequencedPut "<\n>" 7)).1 =
      some (.ok (.ok .sequencedPut)) := by
  have room : (Service.start 7).Fits := by
    refine ⟨⟨by decide, fun {number record cause} found => ?_⟩, nofun⟩
    simp [Service.start, Gate.record?] at found
  have large : 18446744073709551615 < UInt64.size := by decide
  have small : 7 < UInt64.size := by decide
  obtain ⟨_, streams, replies, calls⟩ := is_transparent
  refine ⟨streams _ ?_,
    (replies (.error (.staleSequence 18446744073709551615 7)) ⟨large, small⟩).2 "r", ?_⟩
  · intro request member
    rcases List.mem_cons.mp member with rfl | last
    · exact large
    · cases List.mem_singleton.mp last
      trivial
  · rw [calls "r" (Service.start 7) (.sequencedPut "<\n>" 7) room small (by decide +kernel)]
    have answer : ((Service.start 7).answer? (.sequencedPut "<\n>" 7)).1 =
        some (.ok .sequencedPut) := by
      decide +kernel
    rw [answer]
    rfl

end Connection

end TupleSpace
