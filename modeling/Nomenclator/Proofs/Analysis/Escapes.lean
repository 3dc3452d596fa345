import Mathlib.Data.List.Permutation
import Nomenclator.Analysis.Attempt
import Nomenclator.Proofs.Suggestion.Extraction

/-!
# What an attempt does not foresee

An attempt whose reply was accepted ends in an analysis or in a failure with a category. The
exceptions are a base address that is no text, and an envelope or an answer that is nested too deep
for the decoder.
-/

namespace Nomenclator

open Json

/-! ## Decoding -/

theorem halt_eq_escaped_iff {s : Text} {stop : Stop} {failure : Json.Cause → Failure}
    {escape : Escape} :
    stop.halt s failure = .escaped escape ↔ stop = .tooDeep ∧ escape = .nestingTooDeep := by
  cases stop with
  | malformed problem rest => simp [Stop.halt]
  | integerTooLong digits => simp [Stop.halt]
  | tooDeep => simp [Stop.halt, eq_comm]

theorem halt_eq_failed {stop : Stop} (h : stop ≠ .tooDeep) (s : Text)
    (failure : Json.Cause → Failure) : ∃ cause, stop.halt s failure = .failed (failure cause) := by
  cases stop with
  | malformed problem rest => exact ⟨_, rfl⟩
  | integerTooLong digits => exact ⟨_, rfl⟩
  | tooDeep => exact absurd rfl h

namespace Suggestion

theorem ofAnswer_escapes_iff {answer : Text} {escape : Escape} :
    ofAnswer answer = .error (.escaped escape) ↔
      NestsTooDeep answer ∧ escape = .nestingTooDeep := by
  rw [← extractFrom_eq_tooDeep_iff none]
  unfold ofAnswer extract
  rcases extractFrom_cases answer none with h | h | ⟨t, h, ht⟩
  · simp only [h, true_and]
    rw [Except.error.injEq, halt_eq_escaped_iff]
    simp
  · simp [h]
  · have hdecode : decode t ≠ .error .tooDeep := by
      rcases ht with ht | ht
      · exact absurd ht (by simp)
      · exact ht
    simp only [h]
    split
    · next stop hstop =>
      rw [Except.error.injEq, halt_eq_escaped_iff]
      refine iff_of_false ?_ (by simp)
      rintro ⟨rfl, -⟩
      exact hdecode hstop
    · split <;> simp

end Suggestion

namespace Envelope

theorem ofEntries_eq_ok {entries : Entries Value} {envelope : Envelope}
    (h : ofEntries entries = .ok envelope) :
    entries.get? "response" = some (.text envelope.response) := by
  unfold ofEntries at h
  split at h
  · simp at h
  · next response hresponse =>
    injection h with h
    rw [← h, hresponse]
  · simp at h

theorem ofEntries_of_text {entries : Entries Value} {answer : Text}
    (h : entries.get? "response" = some (.text answer)) :
    ∃ envelope, ofEntries entries = .ok envelope ∧ envelope.response = answer := by
  unfold ofEntries
  rw [h]
  cases entries.get? "error" <;> exact ⟨_, rfl, rfl⟩

theorem ofBody_escapes_iff {body : Text} {escape : Escape} :
    ofBody body = .error (.escaped escape) ↔
      decode body = .error .tooDeep ∧ escape = .nestingTooDeep := by
  unfold ofBody
  split
  · next stop hstop =>
    rw [Except.error.injEq, halt_eq_escaped_iff, hstop, Except.error.injEq]
  · next entries hentries =>
    rw [hentries]
    cases ofEntries entries <;> simp [Except.mapError]
  · next other hother =>
    simp_all

theorem ofBody_eq_error {body : Text} {halt : Halt} (h : ofBody body = .error halt) :
    halt = .escaped .nestingTooDeep ∨ ∃ failure, halt = .failed (.reply failure) := by
  unfold ofBody at h
  split at h
  · next stop hstop =>
    injection h with h
    rw [← h]
    by_cases hdeep : stop = .tooDeep
    · exact .inl (halt_eq_escaped_iff.2 ⟨hdeep, rfl⟩)
    · obtain ⟨cause, hcause⟩ := halt_eq_failed hdeep body fun cause =>
        .reply (.notJson (body.take Suggestion.previewLength) cause)
      exact .inr ⟨_, hcause⟩
  · next entries hentries =>
    cases hof : ofEntries entries with
    | ok envelope => simp [hof, Except.mapError] at h
    | error failure =>
      rw [hof] at h
      injection h with h
      exact .inr ⟨failure, h.symm⟩
  · injection h with h
    exact .inr ⟨_, h.symm⟩

theorem ofBody_eq_ok {body : Text} {envelope : Envelope} (h : ofBody body = .ok envelope) :
    ∃ entries, decode body = .ok (.table entries) ∧
      Entries.get? "response" entries = some (.text envelope.response) := by
  unfold ofBody at h
  split at h
  · simp at h
  · next entries hentries =>
    refine ⟨entries, hentries, ofEntries_eq_ok ?_⟩
    cases hof : ofEntries entries with
    | ok envelope' =>
      rw [hof] at h
      injection h with h
      rw [h]
    | error failure =>
      rw [hof] at h
      exact absurd h (by simp [Except.mapError])
  · simp at h

theorem ofBody_of_table {body answer : Text} {entries : Entries Value}
    (hbody : decode body = .ok (.table entries))
    (hanswer : entries.get? "response" = some (.text answer)) :
    ∃ envelope, ofBody body = .ok envelope ∧ envelope.response = answer := by
  obtain ⟨envelope, hof, hresponse⟩ := ofEntries_of_text hanswer
  refine ⟨envelope, ?_, hresponse⟩
  unfold ofBody
  simp only [hbody, hof]
  rfl

end Envelope

/-! ## Replies -/

/-- The body of a reply, or the answer that it carries, is nested too deep. -/
def ReplyNestsTooDeep (body : Text) : Prop :=
  decode body = .error .tooDeep ∨
    ∃ entries answer, decode body = .ok (.table entries) ∧
      Entries.get? "response" entries = some (.text answer) ∧ Suggestion.NestsTooDeep answer

theorem ofReply_escapes_iff {body : Text} {escape : Escape} :
    (Suggestion.ofReply body).1 = .error (.escaped escape) ↔
      ReplyNestsTooDeep body ∧ escape = .nestingTooDeep := by
  unfold Suggestion.ofReply
  cases henvelope : Envelope.ofBody body with
  | error halt =>
    simp only [Except.error.injEq]
    constructor
    · rintro rfl
      obtain ⟨hdeep, hescape⟩ := Envelope.ofBody_escapes_iff.1 henvelope
      exact ⟨.inl hdeep, hescape⟩
    · rintro ⟨hdeep | ⟨entries, answer, hbody, hanswer, -⟩, rfl⟩
      · have h := Envelope.ofBody_escapes_iff.2 ⟨hdeep, rfl⟩
        rw [henvelope] at h
        injection h
      · obtain ⟨envelope, hok, -⟩ := Envelope.ofBody_of_table hbody hanswer
        rw [henvelope] at hok
        exact absurd hok (by simp)
  | ok envelope =>
    obtain ⟨entries, hbody, hanswer⟩ := Envelope.ofBody_eq_ok henvelope
    have hreply : ReplyNestsTooDeep body ↔ Suggestion.NestsTooDeep envelope.response := by
      unfold ReplyNestsTooDeep
      rw [hbody]
      constructor
      · rintro (h | ⟨entries', answer, h, hanswer', hdeep⟩)
        · simp at h
        · injection h with h
          injection h with h
          rw [← h, hanswer] at hanswer'
          injection hanswer' with hanswer'
          injection hanswer' with hanswer'
          exact hanswer' ▸ hdeep
      · exact fun hdeep => .inr ⟨entries, _, rfl, hanswer, hdeep⟩
    rw [hreply, ← Suggestion.ofAnswer_escapes_iff]
    cases hsuggestion : Suggestion.ofAnswer envelope.response <;> simp [hsuggestion]

/-! ## Calls -/

namespace Service

theorem url_escapes_iff {settings : Settings} {endpoint : Text} {escape : Escape} :
    url settings endpoint = .error (.escaped escape) ↔
      (∀ base, settings.baseUrl ≠ .text base) ∧ escape = .missingMember := by
  unfold url
  split
  · next t ht =>
    refine iff_of_false ?_ fun h => h.1 t ht
    split <;> simp
  · next hno =>
    simp only [Except.error.injEq, Halt.escaped.injEq]
    exact ⟨fun h => ⟨hno, h.symm⟩, fun h => h.2.symm⟩

theorem generate_accepted {settings : Settings} {query : Query} {response : Response}
    (h : response.isAccepted = true) :
    (generate settings query (.response response)).result =
      (url settings generateEndpoint).map fun _ => response.body := by
  unfold generate
  cases url settings generateEndpoint with
  | error halt => rfl
  | ok address => simp [receive, h, Except.map]

end Service

/-! ## Attempts -/

namespace Attempt

variable {ρ : Type} (backend : Backend ρ) (settings : Settings) (snippet : Text) (reply : ρ)

theorem suggestion_result :
    (suggestion backend settings snippet reply).result =
      match (backend.ask (Query.ofSnippet settings snippet) reply).result with
      | .error halt => .error halt
      | .ok body => (Suggestion.ofReply body).1 := by
  unfold suggestion
  dsimp only
  cases (backend.ask (Query.ofSnippet settings snippet) reply).result <;> rfl

theorem analysis_result (index : Nat) :
    (analysis backend settings index snippet reply).result =
      (suggestion backend settings snippet reply).result.map
        (Analysis.ofSuggestion index snippet) := by
  unfold analysis
  dsimp only
  cases (suggestion backend settings snippet reply).result <;> rfl

theorem analysis_escapes_iff (settings : Settings) (index : Nat) (snippet : Text)
    {response : Service.Response} (h : response.isAccepted = true) (escape : Escape) :
    (analysis (Service.backend settings) settings index snippet (.response response)).result =
        .error (.escaped escape) ↔
      (∀ base, settings.baseUrl ≠ .text base) ∧ escape = .missingMember ∨
        (∃ address, Service.url settings Service.generateEndpoint = .ok address) ∧
          ReplyNestsTooDeep response.body ∧ escape = .nestingTooDeep := by
  have hask : ((Service.backend settings).ask (Query.ofSnippet settings snippet)
      (.response response)).result = _ := Service.generate_accepted h
  rw [analysis_result, suggestion_result, hask]
  cases hurl : Service.url settings Service.generateEndpoint with
  | error halt =>
    have hescape := @Service.url_escapes_iff settings Service.generateEndpoint escape
    rw [hurl] at hescape
    simpa [Except.map] using hescape
  | ok address =>
    have hno : ¬∀ base, settings.baseUrl ≠ .text base := by
      intro hno
      have hescape : Service.url settings Service.generateEndpoint =
          .error (.escaped .missingMember) :=
        Service.url_escapes_iff.2 ⟨hno, rfl⟩
      rw [hurl] at hescape
      exact absurd hescape (by simp)
    rw [← ofReply_escapes_iff]
    simp only [Except.map, hno, false_and, false_or, Except.ok.injEq, exists_eq', true_and]
    cases (Suggestion.ofReply response.body).1 <;> simp

/-- An attempt whose reply was accepted ends in an analysis or in a failure with a category, if the
base address is a text and, where that text is an address, the reply is not nested too deep. In no
other case does it. -/
theorem analysis_foreseen_iff (settings : Settings) (index : Nat) (snippet : Text)
    (response : Service.Response) (h : response.isAccepted = true) :
    ((∃ a, (analysis (Service.backend settings) settings index snippet
          (.response response)).result = .ok a) ∨
        ∃ failure, (analysis (Service.backend settings) settings index snippet
          (.response response)).result = .error (.failed failure)) ↔
      (∃ base, settings.baseUrl = .text base) ∧
        ((∃ address, Service.url settings Service.generateEndpoint = .ok address) →
          ¬ReplyNestsTooDeep response.body) := by
  have hescape := analysis_escapes_iff settings index snippet h
  generalize (analysis (Service.backend settings) settings index snippet
    (.response response)).result = result at hescape ⊢
  constructor
  · intro hforeseen
    have hno : ∀ escape, result ≠ .error (.escaped escape) := by
      rintro escape rfl
      rcases hforeseen with ⟨a, h⟩ | ⟨failure, h⟩ <;> simp at h
    constructor
    · by_contra hbase
      exact hno _ ((hescape _).2 (.inl ⟨fun base hb => hbase ⟨base, hb⟩, rfl⟩))
    · intro haddress hdeep
      exact hno _ ((hescape _).2 (.inr ⟨haddress, hdeep, rfl⟩))
  · rintro ⟨⟨base, hbase⟩, hdeep⟩
    match result with
    | .ok a => exact .inl ⟨a, rfl⟩
    | .error (.failed failure) => exact .inr ⟨failure, rfl⟩
    | .error (.escaped escape) =>
      rcases (hescape escape).1 rfl with ⟨hno, -⟩ | ⟨haddress, hreply, -⟩
      · exact absurd hbase (hno base)
      · exact absurd hreply (hdeep haddress)

/-- The body has an answer, and that a name and a description. -/
def plainResponse : Service.Response :=
  ⟨200, some "OK",
    "\x7b\"response\": \"\x7b\\\"name\\\": \\\"f\\\", \\\"description\\\": \\\"d\\\"\x7d\"\x7d"⟩

theorem ofReply_plainResponse :
    (Suggestion.ofReply plainResponse.body).1 = .ok ⟨"d", "f", [], []⟩ := by cbv

theorem analysis_foreseen_iff_plain :
    plainResponse.isAccepted = true ∧ ¬ReplyNestsTooDeep plainResponse.body ∧
      ((∃ a, (analysis (Service.backend .default) .default 0 "int f();"
          (.response plainResponse)).result = .ok a) ∨
        ∃ failure, (analysis (Service.backend .default) .default 0 "int f();"
          (.response plainResponse)).result = .error (.failed failure)) := by
  have haccepted : plainResponse.isAccepted = true := by decide
  have hshallow : ¬ReplyNestsTooDeep plainResponse.body := by
    intro hdeep
    have hescape := ofReply_escapes_iff.2 ⟨hdeep, rfl⟩
    simp [ofReply_plainResponse] at hescape
  exact ⟨haccepted, hshallow,
    (analysis_foreseen_iff .default 0 "int f();" _ haccepted).2 ⟨⟨_, rfl⟩, fun _ => hshallow⟩⟩

/-- Three thousand opening brackets end the attempt without a failure. -/
theorem analysis_escapes_deep_body :
    let response : Service.Response := ⟨200, some "OK", List.replicate 3000 ⟨0x5B⟩⟩
    response.isAccepted = true ∧
      (analysis (Service.backend .default) .default 0 "int f();" (.response response)).result =
        .error (.escaped .nestingTooDeep) := by
  intro response
  have hbody : response.body = List.replicate (nestingLimit + 1) ⟨0x5B⟩ ++
      List.replicate (3000 - (nestingLimit + 1)) ⟨0x5B⟩ := by
    rw [List.replicate_append_replicate]
    rfl
  have hdeep : ReplyNestsTooDeep response.body := .inl (hbody ▸ decode_replicate_bracket _)
  have haccepted : response.isAccepted = true := by decide
  refine ⟨haccepted, (analysis_escapes_iff _ _ _ haccepted _).2 (.inr ⟨⟨_, rfl⟩, hdeep, rfl⟩)⟩

end Attempt

end Nomenclator
