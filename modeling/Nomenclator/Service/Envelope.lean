import Nomenclator.Suggestion.Answer

/-!
# Envelopes

The service answers a request with an object that carries the model's answer and some numbers about
how it came to be.
-/

namespace Nomenclator

structure Envelope where
  response : Text
  done : Bool
  model : Value
  doneReason : Value
  totalDuration : Option Value
  loadDuration : Option Value
  promptEvalCount : Option Value
  evalCount : Option Value
  evalDuration : Option Value
deriving Repr

namespace Envelope

/-- Counts and durations are integers, or truth values, which count as such; anything else is
ignored. -/
def count? (key : Text) (entries : Entries Value) : Option Value :=
  match entries.get? key with
  | some (.integer n) => some (.integer n)
  | some (.boolean b) => some (.boolean b)
  | _ => none

def ofEntries (entries : Entries Value) : Except ReplyFailure Envelope :=
  match entries.get? "error", entries.get? "response" with
  | some error, none => .error (.serviceError error.shown)
  | _, some (.text response) =>
    .ok
      { response
        done := ((entries.get? "done").map Value.isTrue).getD false
        model := (entries.get? "model").getD .null
        doneReason := (entries.get? "done_reason").getD .null
        totalDuration := count? "total_duration" entries
        loadDuration := count? "load_duration" entries
        promptEvalCount := count? "prompt_eval_count" entries
        evalCount := count? "eval_count" entries
        evalDuration := count? "eval_duration" entries }
  | _, _ => .error (.noResponse (entries.keys.mergeSort Text.le))

def ofBody (body : Text) : Except Halt Envelope :=
  match Json.decode body with
  | .error stop =>
    let preview := body.take Suggestion.previewLength
    .error (stop.halt body fun cause => .reply (.notJson preview cause))
  | .ok (.table entries) => (ofEntries entries).mapError (.failed ∘ .reply)
  | .ok other => .error (.failed (.reply (.notTable other.typeName)))

/-- What the envelope says about the answer it carries. -/
def record (envelope : Envelope) : Record :=
  let shown (count : Option Value) : Text := (count.getD .null).shown
  ⟨.debug, .answer,
    Text.concat
      ["Envelope from ", envelope.model.shown, ": done=", (Value.boolean envelope.done).shown,
        ", eval_count=", shown envelope.evalCount, ", total_duration=",
        shown envelope.totalDuration]⟩

end Envelope

/-- The suggestion in a reply, with what is to be logged on the way. -/
def Suggestion.ofReply (body : Text) : Except Halt Suggestion × Log :=
  match Envelope.ofBody body with
  | .error halt => (.error halt, [])
  | .ok envelope =>
    match Suggestion.ofAnswer envelope.response with
    | .error halt => (.error halt, [envelope.record])
    | .ok suggestion => (.ok suggestion, envelope.record :: suggestion.warnings)

end Nomenclator
