import Nomenclator.Proofs.Analysis.Escapes
import Nomenclator.Proofs.Text.Basic

/-!
# What becomes of a reply

A call returns the body of a response with a success status, and fails with the status of any other
response. Three things stand against that: statuses that are neither a success nor an error, the
body of an error that is nested too deep, and a time limit that is too large to be told.
-/

namespace Nomenclator

/-- The time limit can be told as a number of seconds. -/
def Settings.TimeoutIsFinite (settings : Settings) : Prop :=
  ∀ n, settings.timeout = .integer n → Binary64.ofInt? n ≠ none

namespace Service

open Json

/-! ## Promises -/

/-- The statuses from 200 to 299. -/
def Response.IsSuccess (response : Response) : Prop :=
  200 ≤ response.status ∧ response.status ≤ 299

instance (response : Response) : Decidable response.IsSuccess :=
  inferInstanceAs (Decidable (_ ∧ _))

/-- The statuses from 400 to 599. -/
def Response.IsRefusal (response : Response) : Prop :=
  400 ≤ response.status ∧ response.status ≤ 599

instance (response : Response) : Decidable response.IsRefusal :=
  inferInstanceAs (Decidable (_ ∧ _))

/-- A failure of the service that tells `status`. -/
def FailsWith {α : Type} (status : Option Int) (result : Except Halt α) : Prop :=
  ∃ failure : ServiceFailure, result = .error (.failed (.service failure)) ∧
    failure.statusCode? = status

/-- The body of a response with a success status. Any other response is a failure with its status,
and what is no response a failure without one. -/
def AsPromised (reply : Reply) (result : Except Halt Text) : Prop :=
  match reply with
  | .response response =>
    if response.IsSuccess then result = .ok response.body
    else FailsWith (some response.status) result
  | _ => FailsWith none result

/-- Blanks around it apart, there is nothing but slashes in the base. -/
def IsNoAddress (base : Text) : Prop := ∀ r ∈ base.strip, r = Path.slash

instance (base : Text) : Decidable (IsNoAddress base) :=
  inferInstanceAs (Decidable (∀ r ∈ base.strip, r = Path.slash))

variable {settings : Settings} {response : Response} {address : Text}

/-! ## Addresses -/

theorem url_of_isNoAddress {base : Text} (hbase : settings.baseUrl = .text base)
    (h : IsNoAddress base) (endpoint : Text) :
    url settings endpoint = .error (.failed (.service .noBaseUrl)) := by
  have hnil : Text.dropEndWhile (· == Path.slash) base.strip = [] :=
    Text.dropEndWhile_eq_nil_iff.2 fun r hr => beq_iff_eq.2 (h r hr)
  rw [url, hbase]
  simp only [hnil]

theorem exists_url {base : Text} (hbase : settings.baseUrl = .text base) (h : ¬IsNoAddress base)
    (endpoint : Text) : ∃ address, url settings endpoint = .ok address := by
  rw [url, hbase]
  dsimp only
  split
  · next hnil =>
    exact absurd (fun r hr => beq_iff_eq.1 (Text.dropEndWhile_eq_nil_iff.1 hnil r hr)) h
  · exact ⟨_, rfl⟩

/-! ## Responses -/

theorem isAccepted_iff : response.isAccepted = true ↔ ¬response.IsRefusal := by
  rw [Response.isAccepted, Response.IsRefusal, Bool.or_eq_true, decide_eq_true_iff,
    decide_eq_true_iff]
  omega

theorem Response.IsSuccess.isAccepted (h : response.IsSuccess) : response.isAccepted = true := by
  rw [isAccepted_iff]
  unfold IsSuccess at h
  unfold IsRefusal
  omega

theorem errorDetail_of_tooDeep (h : decode response.body = .error .tooDeep) :
    errorDetail response = .error .nestingTooDeep := by
  unfold errorDetail
  rw [h]

theorem exists_errorDetail (h : decode response.body ≠ .error .tooDeep) :
    ∃ detail, errorDetail response = .ok detail := by
  unfold errorDetail
  cases hdecode : decode response.body with
  | error stop =>
    cases stop with
    | tooDeep => exact absurd hdecode h
    | malformed _ _ => exact ⟨_, rfl⟩
    | integerTooLong _ => exact ⟨_, rfl⟩
  | ok value =>
    cases value with
    | table entries =>
      dsimp only
      cases Entries.get? "error" entries <;> exact ⟨_, rfl⟩
    | _ => exact ⟨_, rfl⟩

theorem receive_accepted (h : response.isAccepted = true) (settings : Settings) (address : Text) :
    receive settings address (.response response) = .ok response := by
  rw [receive, if_pos h]

theorem receive_refusal_iff (h : response.IsRefusal) (settings : Settings) (address : Text) :
    FailsWith (some response.status) (receive settings address (.response response)) ↔
      decode response.body ≠ .error .tooDeep := by
  have hrefused : ¬response.isAccepted = true := fun haccepted => isAccepted_iff.1 haccepted h
  rw [receive, if_neg hrefused]
  constructor
  · rintro ⟨failure, hfailure, -⟩ hdeep
    simp [errorDetail_of_tooDeep hdeep] at hfailure
  · intro hdepth
    obtain ⟨detail, hdetail⟩ := exists_errorDetail hdepth
    rw [hdetail]
    exact ⟨_, rfl, rfl⟩

/-! ## Faults -/

theorem exists_secondsText_iff :
    (∃ after, secondsText settings.timeout = .ok after) ↔ settings.TimeoutIsFinite := by
  have hok := settings.timeout_ok
  unfold Settings.TimeoutIsFinite
  cases htimeout : settings.timeout with
  | integer n =>
    cases hreal : Binary64.ofInt? n with
    | none => simp [secondsText, hreal]
    | some x => simp [secondsText, hreal]
  | real x => simp [secondsText]
  | boolean b => simp [secondsText]
  | null => simp [htimeout, Value.atMostZero?] at hok
  | text t => simp [htimeout, Value.atMostZero?] at hok
  | list items => simp [htimeout, Value.atMostZero?] at hok
  | table entries => simp [htimeout, Value.atMostZero?] at hok
  | moment m => simp [htimeout, Value.atMostZero?] at hok

theorem receive_fault_iff (settings : Settings) (address : Text) (fault : TransportFault) :
    FailsWith none (receive settings address (.fault fault)) ↔
      (fault.kind.isTimeout = true → settings.TimeoutIsFinite) := by
  unfold receive
  dsimp only
  by_cases htimeout : fault.kind.isTimeout = true
  · rw [if_pos htimeout, ← exists_secondsText_iff]
    cases hseconds : secondsText settings.timeout with
    | ok after => exact iff_of_true ⟨_, rfl, rfl⟩ fun _ => ⟨after, rfl⟩
    | error escape =>
      refine iff_of_false ?_ (by simp [htimeout])
      rintro ⟨failure, hfailure, -⟩
      simp at hfailure
  · rw [if_neg htimeout]
    refine iff_of_true ?_ fun h => absurd h htimeout
    split <;> exact ⟨_, rfl, rfl⟩

/-! ## Asking for an analysis -/

variable {query : Query}

theorem generate_of_noUrl {halt : Halt} (h : url settings generateEndpoint = .error halt)
    (query : Query) (reply : Reply) :
    (generate settings query reply).calls = [] ∧
      (generate settings query reply).result = .error halt := by
  rw [generate, h]
  exact ⟨rfl, rfl⟩

theorem generate_of_url (h : url settings generateEndpoint = .ok address) (query : Query)
    (reply : Reply) :
    (generate settings query reply).calls =
        [⟨.post, address, settings.connectTimeout, settings.timeout, some query⟩] ∧
      (generate settings query reply).result =
        (receive settings address reply).map Response.body := by
  rw [generate, h]
  dsimp only
  cases receive settings address reply <;> exact ⟨rfl, rfl⟩

theorem failsWith_map_iff {α β : Type} {status : Option Int} {result : Except Halt α} (f : α → β) :
    FailsWith status (result.map f) ↔ FailsWith status result := by
  unfold FailsWith
  cases result <;> simp [Except.map]

/-- What is to be expected of a response, and when it is kept. -/
theorem asPromised_response_iff (settings : Settings) (address : Text) (response : Response) :
    AsPromised (.response response)
        ((receive settings address (.response response)).map Response.body) ↔
      response.IsSuccess ∨ response.IsRefusal ∧ decode response.body ≠ .error .tooDeep := by
  unfold AsPromised
  dsimp only
  by_cases hsuccess : response.IsSuccess
  · rw [if_pos hsuccess, receive_accepted hsuccess.isAccepted]
    exact iff_of_true rfl (.inl hsuccess)
  · rw [if_neg hsuccess, failsWith_map_iff, or_iff_right hsuccess]
    by_cases hrefusal : response.IsRefusal
    · rw [receive_refusal_iff hrefusal, and_iff_right hrefusal]
    · rw [receive_accepted (isAccepted_iff.2 hrefusal)]
      refine iff_of_false ?_ fun h => hrefusal h.1
      rintro ⟨failure, hfailure, -⟩
      simp at hfailure

/-- Without an address nothing is sent, which is a failure without a status. With one there is
exactly one request. Its response has the promised outcome just when its status is a success, or an
error whose body is not nested too deep; a fault has it just when it is no timeout whose limit
cannot be told. -/
theorem generate_asPromised_iff (settings : Settings) (query : Query) (base : Text)
    (hbase : settings.baseUrl = .text base) :
    (IsNoAddress base → ∀ reply, (generate settings query reply).calls = [] ∧
      FailsWith none (generate settings query reply).result) ∧
    (¬IsNoAddress base →
      (∀ reply, ∃ address, (generate settings query reply).calls =
        [⟨.post, address, settings.connectTimeout, settings.timeout, some query⟩]) ∧
      (∀ response, AsPromised (.response response)
          (generate settings query (.response response)).result ↔
        response.IsSuccess ∨ response.IsRefusal ∧ decode response.body ≠ .error .tooDeep) ∧
      ∀ fault, AsPromised (.fault fault) (generate settings query (.fault fault)).result ↔
        (fault.kind.isTimeout = true → settings.TimeoutIsFinite)) := by
  constructor
  · intro hnone reply
    obtain ⟨hcalls, hresult⟩ :=
      generate_of_noUrl (url_of_isNoAddress hbase hnone generateEndpoint) query reply
    exact ⟨hcalls, _, hresult, rfl⟩
  · intro hsome
    obtain ⟨address, hurl⟩ := exists_url hbase hsome generateEndpoint
    refine ⟨fun reply => ⟨address, (generate_of_url hurl query reply).1⟩, fun response => ?_,
      fun fault => ?_⟩
    · rw [(generate_of_url hurl query _).2]
      exact asPromised_response_iff settings address response
    · rw [(generate_of_url hurl query _).2]
      exact (failsWith_map_iff _).trans (receive_fault_iff settings address fault)

def usualQuery : Query := .ofSnippet .default "int f();"

/-- A server without the endpoint. -/
theorem generate_asPromised_notFound :
    let response : Response := ⟨404, some "Not Found", "x"⟩
    Settings.default.baseUrl = .text Settings.defaultBaseUrl ∧
      ¬IsNoAddress Settings.defaultBaseUrl ∧
      AsPromised (.response response)
        (generate .default usualQuery (.response response)).result := by
  intro response
  have hsome : ¬IsNoAddress Settings.defaultBaseUrl := by decide
  have hdepth : decode response.body ≠ .error .tooDeep := by
    cbv
    simp
  refine ⟨rfl, hsome, ?_⟩
  have hpromised := generate_asPromised_iff .default usualQuery Settings.defaultBaseUrl rfl
  exact ((hpromised.2 hsome).2.1 response).2 (.inr ⟨by decide, hdepth⟩)

/-- A page that has not been modified is no success, but its body is returned. -/
theorem generate_returns_notModified :
    let response : Response := ⟨304, some "Not Modified", "x"⟩
    (generate .default usualQuery (.response response)).result = .ok response.body ∧
      ¬AsPromised (.response response)
        (generate .default usualQuery (.response response)).result := by
  intro response
  have hresult : (generate .default usualQuery (.response response)).result =
      .ok response.body := generate_accepted (by decide)
  refine ⟨hresult, ?_⟩
  rw [hresult, AsPromised, if_neg (by decide)]
  rintro ⟨failure, hfailure, -⟩
  simp at hfailure

end Service

end Nomenclator
