import Nomenclator.Proofs.Analysis.Escapes

/-!
# Attempts in order

A sequence of attempts yields one analysis after the other and ends at the first reply that fails.
There is one query for each attempt, and none of them knows anything of the replies before it.
-/

namespace Nomenclator.Attempt

variable {ρ : Type}

/-! ## One attempt -/

section One

variable {backend : Backend ρ} {settings : Settings} {index : Nat} {snippet : Text} {reply : ρ}

theorem analysis_eq_ok_iff {a : Analysis} :
    (analysis backend settings index snippet reply).result = .ok a ↔
      ∃ body suggestion, (backend.ask (Query.ofSnippet settings snippet) reply).result = .ok body ∧
        (Suggestion.ofReply body).1 = .ok suggestion ∧
        a = Analysis.ofSuggestion index snippet suggestion := by
  rw [analysis_result, suggestion_result]
  cases (backend.ask (Query.ofSnippet settings snippet) reply).result with
  | error halt => simp [Except.map]
  | ok body => cases hreply : (Suggestion.ofReply body).1 <;> simp [hreply, Except.map, eq_comm]

theorem analysis_eq_error_iff {halt : Halt} :
    (analysis backend settings index snippet reply).result = .error halt ↔
      (backend.ask (Query.ofSnippet settings snippet) reply).result = .error halt ∨
        ∃ body, (backend.ask (Query.ofSnippet settings snippet) reply).result = .ok body ∧
          (Suggestion.ofReply body).1 = .error halt := by
  rw [analysis_result, suggestion_result]
  cases (backend.ask (Query.ofSnippet settings snippet) reply).result with
  | error halt => simp [Except.map]
  | ok body => cases hreply : (Suggestion.ofReply body).1 <;> simp [hreply, Except.map]

theorem suggestion_asked (backend : Backend ρ) (settings : Settings) (snippet : Text) (reply : ρ) :
    (suggestion backend settings snippet reply).query = Query.ofSnippet settings snippet ∧
      (suggestion backend settings snippet reply).calls =
        (backend.ask (Query.ofSnippet settings snippet) reply).calls := by
  unfold suggestion
  dsimp only
  split <;> exact ⟨rfl, rfl⟩

theorem analysis_asked (backend : Backend ρ) (settings : Settings) (index : Nat) (snippet : Text)
    (reply : ρ) :
    (analysis backend settings index snippet reply).query = Query.ofSnippet settings snippet ∧
      (analysis backend settings index snippet reply).calls =
        (backend.ask (Query.ofSnippet settings snippet) reply).calls := by
  unfold analysis
  dsimp only
  split <;> exact suggestion_asked _ _ _ _

end One

/-! ## One place in a sequence -/

/-- The reply to query number `i`. When the replies have run out there is silence. -/
def replyAt (backend : Backend ρ) (replies : List ρ) (i : Nat) : ρ :=
  replies.getD i backend.silence

/-- What comes back for `snippet` when it is number `i`. -/
def bodyAt (backend : Backend ρ) (settings : Settings) (replies : List ρ) (i : Nat)
    (snippet : Text) : Except Halt Text :=
  (backend.ask (Query.ofSnippet settings snippet) (replyAt backend replies i)).result

/-- The analysis of snippet number `i`: reply number `i` carries the suggestion, and its renames are
applied to the snippet. The first analysis has the number `start`. -/
structure IsYield (backend : Backend ρ) (settings : Settings) (start : Nat) (snippets : List Text)
    (replies : List ρ) (i : Nat) (a : Analysis) : Prop where
  index : a.index = start + i
  source : snippets[i]? = some a.source
  suggestion : ∃ body, bodyAt backend settings replies i a.source = .ok body ∧
    (Suggestion.ofReply body).1 = .ok a.suggestion
  outcome : a.outcome = renameAll a.source a.suggestion.renames

/-- Reply number `i` fails: it brings no body, or a body without a suggestion. -/
def FailsAt (backend : Backend ρ) (settings : Settings) (snippets : List Text) (replies : List ρ)
    (i : Nat) (halt : Halt) : Prop :=
  ∃ snippet, snippets[i]? = some snippet ∧
    (bodyAt backend settings replies i snippet = .error halt ∨
      ∃ body, bodyAt backend settings replies i snippet = .ok body ∧
        (Suggestion.ofReply body).1 = .error halt)

/-- What was sent for snippet number `i`: the query for this snippet, once. -/
def IsAskedAt (backend : Backend ρ) (settings : Settings) (snippets : List Text) (replies : List ρ)
    (i : Nat) (attempt : Attempt Analysis) : Prop :=
  ∃ snippet, snippets[i]? = some snippet ∧ attempt.query = Query.ofSnippet settings snippet ∧
    attempt.calls = (backend.ask attempt.query (replyAt backend replies i)).calls

section Places

variable {backend : Backend ρ} {settings : Settings} {start i : Nat} {snippet : Text}
  {snippets : List Text} {replies : List ρ}

/-! ### The first place -/

theorem headD_eq_replyAt : replies.headD backend.silence = replyAt backend replies 0 := by
  cases replies <;> rfl

theorem isYield_zero {a : Analysis}
    (h : (analysis backend settings start snippet (replyAt backend replies 0)).result = .ok a) :
    IsYield backend settings start (snippet :: snippets) replies 0 a := by
  obtain ⟨body, suggestion, hbody, hreply, rfl⟩ := analysis_eq_ok_iff.1 h
  exact ⟨rfl, rfl, ⟨body, hbody, hreply⟩, rfl⟩

theorem failsAt_zero {halt : Halt}
    (h : (analysis backend settings start snippet (replyAt backend replies 0)).result =
      .error halt) :
    FailsAt backend settings (snippet :: snippets) replies 0 halt :=
  ⟨snippet, rfl, analysis_eq_error_iff.1 h⟩

theorem isAskedAt_zero (index : Nat) :
    IsAskedAt backend settings (snippet :: snippets) replies 0
      (analysis backend settings index snippet (replyAt backend replies 0)) := by
  obtain ⟨hquery, hcalls⟩ :=
    analysis_asked backend settings index snippet (replyAt backend replies 0)
  exact ⟨snippet, rfl, hquery, by rw [hcalls, hquery]⟩

/-! ### The places after it -/

theorem replyAt_tail : replyAt backend replies.tail i = replyAt backend replies (i + 1) := by
  cases replies <;> rfl

theorem bodyAt_tail :
    bodyAt backend settings replies.tail i = bodyAt backend settings replies (i + 1) := by
  funext snippet
  rw [bodyAt, bodyAt, replyAt_tail]

theorem IsYield.succ {a : Analysis}
    (h : IsYield backend settings (start + 1) snippets replies.tail i a) :
    IsYield backend settings start (snippet :: snippets) replies (i + 1) a where
  index := by rw [h.index, Nat.add_assoc, Nat.add_comm 1 i]
  source := h.source
  suggestion := bodyAt_tail ▸ h.suggestion
  outcome := h.outcome

theorem FailsAt.succ {halt : Halt} (h : FailsAt backend settings snippets replies.tail i halt) :
    FailsAt backend settings (snippet :: snippets) replies (i + 1) halt := by
  rw [FailsAt, bodyAt_tail] at h
  exact h

theorem IsAskedAt.succ {attempt : Attempt Analysis}
    (h : IsAskedAt backend settings snippets replies.tail i attempt) :
    IsAskedAt backend settings (snippet :: snippets) replies (i + 1) attempt := by
  rw [IsAskedAt, replyAt_tail] at h
  exact h

end Places

/-! ## Sequences -/

/-- Attempts that give `yields` and end with `failure`, or with the last snippet if there is none.
Each of them has sent one query. -/
structure EndsAtFailure (backend : Backend ρ) (settings : Settings) (start : Nat)
    (snippets : List Text) (replies : List ρ) (attempts : List (Attempt Analysis))
    (yields : List Analysis) (failure : Option Halt) : Prop where
  results : attempts.map Attempt.result = yields.map .ok ++ failure.toList.map .error
  yielded : ∀ i a, yields[i]? = some a → IsYield backend settings start snippets replies i a
  failed : ∀ halt ∈ failure, FailsAt backend settings snippets replies yields.length halt
  complete : failure = none → yields.length = snippets.length
  asked : ∀ i attempt, attempts[i]? = some attempt →
    IsAskedAt backend settings snippets replies i attempt
  sent : attempts.length =
    if failure.isSome then yields.length + 1 else snippets.length

section Sequences

variable {backend : Backend ρ} {settings : Settings} {start : Nat} {snippet : Text}
  {snippets : List Text} {replies : List ρ}

theorem endsAtFailure_nil : EndsAtFailure backend settings start [] replies [] [] none where
  results := rfl
  yielded := by simp
  failed := by simp
  complete := fun _ => rfl
  asked := by simp
  sent := rfl

theorem endsAtFailure_failed {halt : Halt}
    (h : (analysis backend settings start snippet (replyAt backend replies 0)).result =
      .error halt) :
    EndsAtFailure backend settings start (snippet :: snippets) replies
      [analysis backend settings start snippet (replyAt backend replies 0)] [] (some halt) where
  results := by simp [h]
  yielded := by simp
  failed := by
    intro halt' hhalt
    injection hhalt with hhalt
    exact hhalt ▸ failsAt_zero h
  complete := by simp
  asked := by
    intro i attempt hattempt
    cases i with
    | zero =>
      injection hattempt with hattempt
      exact hattempt ▸ isAskedAt_zero start
    | succ i => simp at hattempt
  sent := rfl

theorem EndsAtFailure.cons {a : Analysis} {attempts : List (Attempt Analysis)}
    {yields : List Analysis} {failure : Option Halt}
    (h : (analysis backend settings start snippet (replyAt backend replies 0)).result = .ok a)
    (hrest : EndsAtFailure backend settings (start + 1) snippets replies.tail attempts yields
      failure) :
    EndsAtFailure backend settings start (snippet :: snippets) replies
      (analysis backend settings start snippet (replyAt backend replies 0) :: attempts)
      (a :: yields) failure where
  results := by simp [h, hrest.results]
  yielded := by
    intro i a' ha'
    cases i with
    | zero =>
      injection ha' with ha'
      exact ha' ▸ isYield_zero h
    | succ i => exact (hrest.yielded i a' ha').succ
  failed := fun halt hhalt => (hrest.failed halt hhalt).succ
  complete := fun hnone => congrArg (· + 1) (hrest.complete hnone)
  asked := by
    intro i attempt hattempt
    cases i with
    | zero =>
      injection hattempt with hattempt
      exact hattempt ▸ isAskedAt_zero start
    | succ i => exact (hrest.asked i attempt hattempt).succ
  sent := by
    rw [List.length_cons, hrest.sent]
    split <;> rfl

theorem each_endsAtFailure (backend : Backend ρ) (settings : Settings) (start : Nat)
    (snippets : List Text) (replies : List ρ) :
    ∃ yields failure, EndsAtFailure backend settings start snippets replies
      (each backend settings start snippets replies) yields failure := by
  induction snippets generalizing start replies with
  | nil => exact ⟨[], none, endsAtFailure_nil⟩
  | cons snippet rest ih =>
    unfold each
    rw [headD_eq_replyAt]
    dsimp only
    split
    · next halt hresult => exact ⟨[], some halt, endsAtFailure_failed hresult⟩
    · next a hresult =>
      obtain ⟨yields, failure, hrest⟩ := ih (start + 1) replies.tail
      exact ⟨a :: yields, failure, hrest.cons hresult⟩

theorem each_take_eq {replies' : List ρ} {n : Nat}
    (h : ∀ i < n, replyAt backend replies' i = replyAt backend replies i) :
    (each backend settings start snippets replies').take n =
      (each backend settings start snippets replies).take n := by
  induction snippets generalizing start replies replies' n with
  | nil => rfl
  | cons snippet rest ih =>
    cases n with
    | zero => rfl
    | succ n =>
      have htail : ∀ i < n, replyAt backend replies'.tail i = replyAt backend replies.tail i := by
        intro i hi
        rw [replyAt_tail, replyAt_tail]
        exact h (i + 1) (by omega)
      unfold each
      rw [headD_eq_replyAt, headD_eq_replyAt, h 0 (by omega)]
      dsimp only
      split
      · rfl
      · exact congrArg (_ :: ·) (ih htail)

/-! ## The answer to all of them -/

/-- The yields, unless there was a failure. -/
def answer (yields : List Analysis) (failure : Option Halt) : Except Halt (List Analysis) :=
  match failure with
  | none => .ok yields
  | some halt => .error halt

theorem mapM_results (yields : List Analysis) (failure : Option Halt) :
    (yields.map Except.ok ++ failure.toList.map Except.error).mapM id = answer yields failure := by
  induction yields with
  | nil => cases failure <;> rfl
  | cons a rest ih =>
    rw [List.map_cons, List.cons_append, List.mapM_cons, ih]
    cases failure <;> rfl

theorem EndsAtFailure.all_eq {yields : List Analysis} {failure : Option Halt}
    (h : EndsAtFailure backend settings 0 snippets replies
      (each backend settings 0 snippets replies) yields failure) :
    all backend settings snippets replies = answer yields failure := by
  rw [all, ← mapM_results, ← h.results, List.mapM_map]
  rfl

end Sequences

/-- A sequence yields the analyses of its snippets in order, up to the first reply that fails. It
has then sent one query for each yield and one for the failure, each with nothing in it but the
settings and its own snippet. All analyses together are the yields, or that failure. Replies that
come later change nothing of what came before. -/
theorem each_ends_at_first_failure (backend : Backend ρ) (settings : Settings)
    (snippets : List Text) (replies : List ρ) :
    ∃ yields failure,
      EndsAtFailure backend settings 0 snippets replies
        (each backend settings 0 snippets replies) yields failure ∧
      all backend settings snippets replies = answer yields failure ∧
      ∀ replies' n, (∀ i < n, replyAt backend replies' i = replyAt backend replies i) →
        (each backend settings 0 snippets replies').take n =
          (each backend settings 0 snippets replies).take n := by
  obtain ⟨yields, failure, h⟩ := each_endsAtFailure backend settings 0 snippets replies
  exact ⟨yields, failure, h, h.all_eq, fun _ _ => each_take_eq⟩

end Nomenclator.Attempt
