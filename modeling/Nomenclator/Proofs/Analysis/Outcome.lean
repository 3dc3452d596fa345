import Mathlib.Data.List.Permutation
import Nomenclator.Proofs.Analysis.Escapes
import Nomenclator.Proofs.Suggestion.Balance
import Nomenclator.Proofs.Suggestion.Validation

/-!
# What becomes of a reply

A reply is refused as a reply when it carries no answer. An answer is refused for one of three
reasons, each with its own message: no balanced text, none that decodes, an object whose fields are
at fault.
-/

namespace Nomenclator

open Json

/-! ## Replies and the answers they carry -/

/-- The body is a table with the text `answer` as its response. -/
def Carries (body answer : Text) : Prop :=
  ∃ entries, decode body = .ok (.table entries) ∧
    Entries.get? "response" entries = some (.text answer)

/-- The body does not decode, is no table, or its response is absent or no text. -/
inductive LacksAnswer (body : Text) : Prop
  | notJson {stop : Stop} (h : decode body = .error stop)
  | notTable {value : Value} (h : decode body = .ok value) (hno : ∀ entries, value ≠ .table entries)
  | absent {entries : Entries Value} (h : decode body = .ok (.table entries))
      (hno : Entries.get? "response" entries = none)
  | notText {entries : Entries Value} {value : Value} (h : decode body = .ok (.table entries))
      (hvalue : Entries.get? "response" entries = some value) (hno : ∀ t, value ≠ .text t)

/-- The result is a failure of the category, and its message begins with `opening`. -/
def FailsAs (category : Category) (opening : Text) (result : Except Halt Suggestion) : Prop :=
  ∃ failure, result = .error (.failed failure) ∧ failure.category = category ∧
    opening <+: failure.message

theorem lacksAnswer_or_carries (body : Text) :
    LacksAnswer body ∨ ∃ answer, Carries body answer := by
  cases hbody : decode body with
  | error stop => exact .inl (.notJson hbody)
  | ok value =>
    by_cases htable : ∃ entries, value = .table entries
    · obtain ⟨entries, rfl⟩ := htable
      cases hresponse : Entries.get? "response" entries with
      | none => exact .inl (.absent hbody hresponse)
      | some response =>
        by_cases htext : ∃ answer, response = .text answer
        · obtain ⟨answer, rfl⟩ := htext
          exact .inr ⟨answer, entries, hbody, hresponse⟩
        · exact .inl (.notText hbody hresponse fun t ht => htext ⟨t, ht⟩)
    · exact .inl (.notTable hbody fun entries hentries => htable ⟨entries, hentries⟩)

theorem LacksAnswer.not_carries {body answer : Text} (h : LacksAnswer body) :
    ¬Carries body answer := by
  rintro ⟨entries, hbody, hresponse⟩
  cases h with
  | notJson h => simp [h] at hbody
  | notTable h hno =>
    rw [h] at hbody
    injection hbody with hbody
    exact hno entries hbody
  | absent h hno =>
    rw [h] at hbody
    injection hbody with hbody
    injection hbody with hbody
    rw [hbody, hresponse] at hno
    exact absurd hno (by simp)
  | notText h hvalue hno =>
    rw [h] at hbody
    injection hbody with hbody
    injection hbody with hbody
    rw [hbody, hresponse] at hvalue
    injection hvalue with hvalue
    exact hno answer hvalue.symm

theorem Carries.not_nestsTooDeep {body answer : Text} (hcarries : Carries body answer)
    (h : ¬ReplyNestsTooDeep body) : ¬Suggestion.NestsTooDeep answer := by
  obtain ⟨entries, hbody, hresponse⟩ := hcarries
  exact fun hdeep => h (.inr ⟨entries, answer, hbody, hresponse, hdeep⟩)

theorem Carries.ofReply_eq {body answer : Text} (h : Carries body answer) :
    (Suggestion.ofReply body).1 = Suggestion.ofAnswer answer := by
  obtain ⟨entries, hbody, hresponse⟩ := h
  obtain ⟨envelope, hok, rfl⟩ := Envelope.ofBody_of_table hbody hresponse
  unfold Suggestion.ofReply
  rw [hok]
  cases hanswer : Suggestion.ofAnswer envelope.response <;> simp only [hanswer]

theorem LacksAnswer.ofReply_eq {body : Text} (h : LacksAnswer body)
    (hdeep : decode body ≠ .error .tooDeep) :
    ∃ failure, (Suggestion.ofReply body).1 = .error (.failed (.reply failure)) := by
  unfold Suggestion.ofReply
  cases henvelope : Envelope.ofBody body with
  | ok envelope => exact absurd (Envelope.ofBody_eq_ok henvelope) h.not_carries
  | error halt =>
    rcases Envelope.ofBody_eq_error henvelope with rfl | ⟨failure, rfl⟩
    · exact absurd (Envelope.ofBody_escapes_iff.1 henvelope).1 hdeep
    · exact ⟨failure, rfl⟩

/-! ## Messages -/

theorem AnswerFailure.opening_iff (failure : AnswerFailure) :
    ("No JSON object" <+: failure.message ↔ ∃ preview, failure = .noObject preview) ∧
      ("Model output is not valid JSON" <+: failure.message ↔ ∃ cause, failure = .notJson cause) ∧
      ("Model output failed validation" <+: failure.message ↔
        ∃ problems, failure = .invalid problems) := by
  cases failure <;> simp only [← List.isPrefixOf_iff_prefix, reduceCtorEq, exists_false, iff_false,
    Bool.not_eq_true, AnswerFailure.noObject.injEq, AnswerFailure.notJson.injEq,
    AnswerFailure.invalid.injEq, exists_eq', iff_true]
  -- Each message is a fixed text and then the details, which have no say here.
  case noObject => cbv
  case notJson => cbv
  case invalid => cbv

/-! ## Answers -/

namespace Suggestion

/-- What can become of an answer, and when. -/
inductive AnswerOutcome (answer : Text) : Except Halt Suggestion → Prop
  | noObject {preview : Text} (hnone : ∀ t, t <:+: answer → ¬IsBalanced t) :
    AnswerOutcome answer (.error (.failed (.answer (.noObject preview))))
  | notJson {cause : Json.Cause} (hsome : ∃ t, t <:+: answer ∧ IsBalanced t)
      (hnone : ∀ t, t <:+: answer → ¬IsObject t) :
    AnswerOutcome answer (.error (.failed (.answer (.notJson cause))))
  | invalid {entries : Entries Value} {problems : List (Text × Fault)}
      (hentries : Extracts answer entries) (hinvalid : IsInvalid entries)
      (hkeys : ∀ problem ∈ problems, problem.1 ∈ descriptionKeys ++ nameKeys) :
    AnswerOutcome answer (.error (.failed (.answer (.invalid (.fields problems)))))
  | suggested {entries : Entries Value} {suggestion : Suggestion}
      (hentries : Extracts answer entries) (hsuggestion : IsSuggestion entries suggestion) :
    AnswerOutcome answer (.ok suggestion)

theorem ofAnswer_outcome {answer : Text} (h : ¬NestsTooDeep answer) :
    AnswerOutcome answer (ofAnswer answer) := by
  have hescape : ofAnswer answer ≠ .error (.escaped .nestingTooDeep) :=
    fun hescape => h (ofAnswer_escapes_iff.1 hescape).1
  unfold ofAnswer at hescape ⊢
  rcases extract_cases h with ⟨hextract, hnone⟩ | ⟨t, stop, hextract, hdecode, hsome, hnone⟩ |
    ⟨t, entries, hextract, hdecode, hentries⟩
  · simp only [hextract]
    exact .noObject hnone
  · simp only [hextract, hdecode] at hescape ⊢
    have hstop : stop ≠ .tooDeep := by
      rintro rfl
      exact hescape rfl
    obtain ⟨cause, hcause⟩ := halt_eq_failed hstop t (.answer ∘ .notJson)
    rw [hcause]
    exact .notJson ⟨t, hsome⟩ hnone
  · simp only [hextract, hdecode, ofValue]
    rcases isSuggestion_or_isInvalid entries with ⟨suggestion, hsuggestion⟩ | hinvalid
    · simp only [hsuggestion.ofEntries_eq]
      exact .suggested hentries hsuggestion
    · obtain ⟨problems, hproblems, hkeys⟩ := hinvalid.ofEntries_eq
      simp only [hproblems]
      exact .invalid hentries hinvalid hkeys

section

variable {answer : Text} {result : Except Halt Suggestion}

theorem AnswerOutcome.noObject_iff (h : AnswerOutcome answer result) :
    (∃ preview, result = .error (.failed (.answer (.noObject preview)))) ↔
      ∀ t, t <:+: answer → ¬IsBalanced t := by
  cases h with
  | noObject hnone => simpa using hnone
  | notJson hsome hnone =>
    obtain ⟨t, ht, hbalanced⟩ := hsome
    exact iff_of_false (by simp) fun hnone => hnone t ht hbalanced
  | invalid hentries _ _ | suggested hentries _ =>
    obtain ⟨t, ht, hobject⟩ := hentries.exists_object
    exact iff_of_false (by simp) fun hnone => hnone t ht hobject.1

theorem AnswerOutcome.notJson_iff (h : AnswerOutcome answer result) :
    (∃ cause, result = .error (.failed (.answer (.notJson cause)))) ↔
      (∃ t, t <:+: answer ∧ IsBalanced t) ∧ ∀ t, t <:+: answer → ¬IsObject t := by
  cases h with
  | noObject hnone =>
    refine iff_of_false (by simp) ?_
    rintro ⟨⟨t, ht, hbalanced⟩, -⟩
    exact hnone t ht hbalanced
  | notJson hsome hnone => exact iff_of_true ⟨_, rfl⟩ ⟨hsome, hnone⟩
  | invalid hentries _ _ | suggested hentries _ =>
    obtain ⟨t, ht, hobject⟩ := hentries.exists_object
    exact iff_of_false (by simp) fun hnone => hnone.2 t ht hobject

theorem AnswerOutcome.of_extracts {entries : Entries Value} (h : AnswerOutcome answer result)
    (hentries : Extracts answer entries) :
    (IsInvalid entries ∧ ∃ problems, result = .error (.failed (.answer (.invalid problems)))) ∨
      ∃ suggestion, IsSuggestion entries suggestion ∧ result = .ok suggestion := by
  cases h with
  | noObject hnone =>
    have hnever := not_extracts_of_noObject fun t ht hobject => hnone t ht hobject.1
    exact absurd hentries (hnever entries)
  | notJson hsome hnone => exact absurd hentries (not_extracts_of_noObject hnone entries)
  | invalid hentries' hinvalid _ =>
    obtain rfl := hentries.unique hentries'
    exact .inl ⟨hinvalid, _, rfl⟩
  | suggested hentries' hsuggestion =>
    obtain rfl := hentries.unique hentries'
    exact .inr ⟨_, hsuggestion, rfl⟩

theorem AnswerOutcome.invalid_iff (h : AnswerOutcome answer result) :
    (∃ problems, result = .error (.failed (.answer (.invalid problems)))) ↔
      ∃ entries, Extracts answer entries ∧ IsInvalid entries := by
  constructor
  · rintro ⟨problems, rfl⟩
    cases h with
    | invalid hentries hinvalid _ => exact ⟨_, hentries, hinvalid⟩
  · rintro ⟨entries, hentries, hinvalid⟩
    rcases h.of_extracts hentries with ⟨-, hresult⟩ | ⟨suggestion, hsuggestion, -⟩
    · exact hresult
    · exact absurd hsuggestion hinvalid.not_isSuggestion

theorem AnswerOutcome.ok_iff (h : AnswerOutcome answer result) {suggestion : Suggestion} :
    result = .ok suggestion ↔
      ∃ entries, Extracts answer entries ∧ IsSuggestion entries suggestion := by
  constructor
  · rintro rfl
    cases h with
    | suggested hentries hsuggestion => exact ⟨_, hentries, hsuggestion⟩
  · rintro ⟨entries, hentries, hsuggestion⟩
    rcases h.of_extracts hentries with ⟨hinvalid, -⟩ | ⟨suggestion', hsuggestion', hresult⟩
    · exact absurd hsuggestion hinvalid.not_isSuggestion
    · rw [hresult, hsuggestion.unique hsuggestion']

theorem AnswerOutcome.refused_or_suggested (h : AnswerOutcome answer result) :
    (∃ failure, result = .error (.failed (.answer failure))) ∨
      ∃ suggestion, result = .ok suggestion := by
  cases h with
  | suggested hentries hsuggestion => exact .inr ⟨_, rfl⟩
  | _ => exact .inl ⟨_, rfl⟩

theorem AnswerOutcome.not_protocol (h : AnswerOutcome answer result) (opening : Text) :
    ¬FailsAs .protocol opening result := by
  rintro ⟨failure, rfl, hcategory, -⟩
  cases h <;> simp [Failure.category] at hcategory

/-- Where the opening tells one kind of failures from the others, the result is of that kind. -/
theorem AnswerOutcome.failsAs_iff {α : Type} {kind : α → AnswerFailure} {opening : Text}
    (h : AnswerOutcome answer result)
    (hkind : ∀ failure : AnswerFailure, opening <+: failure.message ↔ ∃ x, failure = kind x) :
    FailsAs .validation opening result ↔
      ∃ x, result = .error (.failed (.answer (kind x))) := by
  constructor
  · rintro ⟨failure, rfl, -, hopening⟩
    rcases h.refused_or_suggested with ⟨failure', hfailure⟩ | ⟨suggestion, hok⟩
    · injection hfailure with hfailure
      injection hfailure with hfailure
      subst hfailure
      obtain ⟨x, rfl⟩ := (hkind failure').1 hopening
      exact ⟨x, rfl⟩
    · exact absurd hok (by simp)
  · rintro ⟨x, rfl⟩
    exact ⟨_, rfl, rfl, (hkind _).2 ⟨x, rfl⟩⟩

theorem AnswerOutcome.place_ne_nil {problems : Invalid}
    (h : AnswerOutcome answer (.error (.failed (.answer (.invalid problems))))) :
    ∀ problem ∈ problems.problems, Text.join "." problem.1 ≠ [] := by
  cases h with
  | invalid hentries hinvalid hkeys =>
    intro problem hproblem
    obtain ⟨⟨key, fault⟩, hmem, rfl⟩ := List.mem_map.1 hproblem
    have hnonempty : ∀ key ∈ descriptionKeys ++ nameKeys, key ≠ [] := by decide
    exact hnonempty key (hkeys _ hmem)

end

theorem exists_table_of_extract {answer t : Text} {value : Value} (h : ¬NestsTooDeep answer)
    (hextract : extract answer = .ok (some t)) (hdecode : decode t = .ok value) :
    ∃ entries, value = .table entries := by
  rcases extract_cases h with ⟨hnone, -⟩ | ⟨t', stop, hsome, herror, -⟩ |
    ⟨t', entries, hsome, htable, -⟩
  · simp [hnone] at hextract
  · rw [hextract] at hsome
    injection hsome with hsome
    injection hsome with hsome
    rw [← hsome, hdecode] at herror
    exact absurd herror (by simp)
  · rw [hextract] at hsome
    injection hsome with hsome
    injection hsome with hsome
    rw [← hsome, hdecode] at htable
    injection htable with htable
    exact ⟨entries, htable⟩

/-- A reply that is not nested too deep fails as a reply where it lacks an answer. An answer fails
where it has no balanced text, where none decodes, and where the leftmost that does has a field at
fault; otherwise it makes the suggestion. What is validated is always a table, and every problem is
told with a place. -/
theorem ofReply_outcome (body : Text) (h : ¬ReplyNestsTooDeep body) :
    (FailsAs .protocol [] (ofReply body).1 ↔ LacksAnswer body) ∧
    ∀ answer, Carries body answer →
      (FailsAs .validation "No JSON object" (ofReply body).1 ↔
        ∀ t, t <:+: answer → ¬IsBalanced t) ∧
      (FailsAs .validation "Model output is not valid JSON" (ofReply body).1 ↔
        (∃ t, t <:+: answer ∧ IsBalanced t) ∧ ∀ t, t <:+: answer → ¬IsObject t) ∧
      (FailsAs .validation "Model output failed validation" (ofReply body).1 ↔
        ∃ entries, Extracts answer entries ∧ IsInvalid entries) ∧
      (∀ suggestion, (ofReply body).1 = .ok suggestion ↔
        ∃ entries, Extracts answer entries ∧ IsSuggestion entries suggestion) ∧
      (FailsAs .validation "No JSON object" (ofReply body).1 ∨
        FailsAs .validation "Model output is not valid JSON" (ofReply body).1 ∨
        FailsAs .validation "Model output failed validation" (ofReply body).1 ∨
        ∃ suggestion, (ofReply body).1 = .ok suggestion) ∧
      (∀ t value, extract answer = .ok (some t) → decode t = .ok value →
        ∃ entries, value = .table entries) ∧
      ∀ problems, (ofReply body).1 = .error (.failed (.answer (.invalid problems))) →
        ∀ problem ∈ problems.problems, Text.join "." problem.1 ≠ [] := by
  have houtcome : ∀ answer, Carries body answer → AnswerOutcome answer (ofReply body).1 := by
    intro answer hcarries
    rw [hcarries.ofReply_eq]
    exact ofAnswer_outcome (hcarries.not_nestsTooDeep h)
  constructor
  · rcases lacksAnswer_or_carries body with hlacks | ⟨answer, hcarries⟩
    · obtain ⟨failure, hfailure⟩ := hlacks.ofReply_eq fun hdeep => h (.inl hdeep)
      exact iff_of_true ⟨_, hfailure, rfl, List.nil_prefix⟩ hlacks
    · exact iff_of_false ((houtcome answer hcarries).not_protocol []) fun hlacks =>
        hlacks.not_carries hcarries
  · intro answer hcarries
    have hanswer := houtcome answer hcarries
    -- the message begins in one of three ways, and that tells the reason
    have hnoObject := hanswer.failsAs_iff fun failure => failure.opening_iff.1
    have hnotJson := hanswer.failsAs_iff fun failure => failure.opening_iff.2.1
    have hinvalid := hanswer.failsAs_iff fun failure => failure.opening_iff.2.2
    refine ⟨hnoObject.trans hanswer.noObject_iff, hnotJson.trans hanswer.notJson_iff,
      hinvalid.trans hanswer.invalid_iff, fun suggestion => hanswer.ok_iff, ?_,
      fun t value => exists_table_of_extract (hcarries.not_nestsTooDeep h),
      fun problems hproblems => ?_⟩
    · rw [hnoObject, hnotJson, hinvalid]
      rcases hanswer.refused_or_suggested with ⟨failure, hfailure⟩ | hok
      · cases failure with
        | noObject preview => exact .inl ⟨_, hfailure⟩
        | notJson cause => exact .inr (.inl ⟨_, hfailure⟩)
        | invalid problems => exact .inr (.inr (.inl ⟨_, hfailure⟩))
      · exact .inr (.inr (.inr hok))
    · rw [hproblems] at hanswer
      exact hanswer.place_ne_nil

def proseAnswer : Text := "As \x7bx\x7d: \x7b\"comment\": \"d\", \"name\": \" f \"\x7d"

/-- The body of a reply with `proseAnswer`. -/
def proseBody : Text := "\x7b\"response\": \"As \x7bx\x7d: " ++
  "\x7b\\\"comment\\\": \\\"d\\\", \\\"name\\\": \\\" f \\\"\x7d\"\x7d"

theorem ofReply_proseBody : (ofReply proseBody).1 = .ok ⟨"d", "f", [], []⟩ := by cbv

theorem carries_proseBody : Carries proseBody proseAnswer :=
  ⟨[("response", .text proseAnswer)], by cbv, by cbv⟩

/-- The braces in the prose are balanced and do not decode; the object after them does. -/
theorem ofReply_outcome_prose :
    ¬ReplyNestsTooDeep proseBody ∧ Carries proseBody proseAnswer ∧ ¬LacksAnswer proseBody ∧
      ∃ entries, Extracts proseAnswer entries ∧ IsSuggestion entries ⟨"d", "f", [], []⟩ := by
  have hdeep : ¬ReplyNestsTooDeep proseBody := by
    intro hdeep
    have hescape := ofReply_escapes_iff.2 ⟨hdeep, rfl⟩
    rw [ofReply_proseBody] at hescape
    exact absurd hescape (by simp)
  obtain ⟨hlacks, hanswer⟩ := ofReply_outcome proseBody hdeep
  refine ⟨hdeep, carries_proseBody, fun h => h.not_carries carries_proseBody, ?_⟩
  exact ((hanswer proseAnswer carries_proseBody).2.2.2.1 _).1 ofReply_proseBody

end Suggestion

end Nomenclator
