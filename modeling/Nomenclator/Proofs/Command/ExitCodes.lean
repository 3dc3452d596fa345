import Nomenclator.Command.Analyze
import Nomenclator.Proofs.Analysis.Escapes
import Nomenclator.Proofs.Console.Plain

/-!
# Exit codes

An analysis that is done exits with zero, and nothing else does. A failure of the analysis has one
of four codes, by its class.
-/

namespace Nomenclator

/-- The exit code of each class of failures. -/
def Failure.ExitsWith : Failure → Nat → Prop
  | .input _, code => code = 2
  | .service _, code => code = 3
  | .reply _, code => code = 4
  | .answer _, code => code = 5
  | .told _ _, _ => False

/-- Is it a failure in the words of a service of another kind? -/
def Halt.isTold : Halt → Bool
  | .failed (.told _ _) => true
  | _ => false

theorem Failure.exitsWith_exitCode {failure : Failure} (h : (Halt.failed failure).isTold = false) :
    failure.ExitsWith failure.exitCode := by
  cases failure with
  | told category message => exact absurd h (by simp [Halt.isTold])
  | _ => rfl

theorem Failure.exitCode_ne_zero (failure : Failure) : failure.exitCode ≠ 0 := by
  unfold exitCode
  cases failure.category <;> decide

/-! ## Failures of the analysis -/

theorem Json.Stop.halt_isTold {failure : Json.Cause → Failure}
    (h : ∀ cause, (Halt.failed (failure cause)).isTold = false) (s : Text) (stop : Json.Stop) :
    (stop.halt s failure).isTold = false := by
  cases stop with
  | malformed problem rest => exact h _
  | integerTooLong digits => exact h _
  | tooDeep => rfl

theorem Suggestion.ofAnswer_isTold {answer : Text} {halt : Halt}
    (h : ofAnswer answer = .error halt) : halt.isTold = false := by
  unfold ofAnswer at h
  split at h
  · injection h with h
    exact h ▸ Json.Stop.halt_isTold (fun _ => rfl) _ _
  · injection h with h
    exact h ▸ rfl
  · split at h
    · injection h with h
      exact h ▸ Json.Stop.halt_isTold (fun _ => rfl) _ _
    · split at h
      · injection h with h
        exact h ▸ rfl
      · simp at h

theorem Envelope.ofBody_isTold {body : Text} {halt : Halt} (h : ofBody body = .error halt) :
    halt.isTold = false := by
  rcases ofBody_eq_error h with rfl | ⟨failure, rfl⟩
  · rfl
  · rfl

theorem Suggestion.ofReply_isTold {body : Text} {halt : Halt}
    (h : (ofReply body).1 = .error halt) : halt.isTold = false := by
  unfold ofReply at h
  split at h
  · next hbody =>
    injection h with h
    exact h ▸ Envelope.ofBody_isTold hbody
  · split at h
    · next hanswer =>
      injection h with h
      exact h ▸ ofAnswer_isTold hanswer
    · simp at h

namespace Service

theorem url_isTold {settings : Settings} {endpoint : Text} {halt : Halt}
    (h : url settings endpoint = .error halt) : halt.isTold = false := by
  unfold url at h
  split at h
  · split at h
    · injection h with h
      exact h ▸ rfl
    · simp at h
  · injection h with h
    exact h ▸ rfl

theorem receive_isTold {settings : Settings} {address : Text} {reply : Reply} {halt : Halt}
    (h : receive settings address reply = .error halt) : halt.isTold = false := by
  unfold receive at h
  split at h
  · split at h
    · simp at h
    · split at h <;> injection h with h <;> exact h ▸ rfl
  · split at h
    · split at h <;> injection h with h <;> exact h ▸ rfl
    · split at h <;> injection h with h <;> exact h ▸ rfl
  · injection h with h
    exact h ▸ rfl
  · injection h with h
    exact h ▸ rfl

theorem generate_isTold {settings : Settings} {query : Query} {reply : Reply} {halt : Halt}
    (h : (generate settings query reply).result = .error halt) : halt.isTold = false := by
  unfold generate at h
  split at h
  · next hurl =>
    injection h with h
    exact h ▸ url_isTold hurl
  · dsimp only at h
    split at h
    · next hreceive =>
      injection h with h
      exact h ▸ receive_isTold hreceive
    · simp at h

end Service

/-- An attempt that reaches a server fails in one of the program's own ways. -/
theorem Attempt.analysis_isTold {settings : Settings} {index : Nat} {snippet : Text}
    {reply : Service.Reply} {halt : Halt}
    (h : (analysis (Service.backend settings) settings index snippet reply).result = .error halt) :
    halt.isTold = false := by
  rw [analysis_result, suggestion_result] at h
  cases hask : ((Service.backend settings).ask (Query.ofSnippet settings snippet) reply).result with
  | error halt' =>
    rw [hask] at h
    injection h with h
    exact h ▸ Service.generate_isTold hask
  | ok body =>
    rw [hask] at h
    cases hreply : (Suggestion.ofReply body).1 with
    | error halt' =>
      simp only [hreply, Except.map] at h
      injection h with h
      exact h ▸ Suggestion.ofReply_isTold hreply
    | ok suggestion => simp [hreply, Except.map] at h

/-! ## Endings -/

namespace Command.Job

open Console

theorem sayThen_run {goOn : Run → Ending × Run}
    (hgoOn : ∀ run, (goOn run).2.calls = run.calls ∧ (goOn run).2.tree = run.tree) (run : Run)
    (showing : Showing) : (run.sayThen showing goOn).2.calls = run.calls ∧
      (run.sayThen showing goOn).2.tree = run.tree := by
  unfold Run.sayThen
  cases showing.stop with
  | none => exact hgoOn _
  | some error => exact ⟨rfl, rfl⟩

theorem conclude_run (job : Job) (step : Except Halt Unit × Run) :
    (job.conclude step).2.calls = step.2.calls ∧ (job.conclude step).2.tree = step.2.tree := by
  unfold conclude
  split
  · exact sayThen_run (fun _ => ⟨rfl, rfl⟩) _ _
  · exact sayThen_run (fun _ => ⟨rfl, rfl⟩) _ _
  · exact sayThen_run (fun _ => ⟨rfl, rfl⟩) _ _
  · exact ⟨rfl, rfl⟩

theorem doneLine_stop (job : Job) : job.doneLine.stop = none :=
  Showing.one_stop.2 (exists_printed_eq_ok (by decide) (by decide) job.width)

theorem startLine_stop (job : Job) {path : Path} (hcolon : Picture.colon ∉ path.toText)
    (heven : measuresEvenly path.toText = true) : (job.startLine path).stop = none := by
  have hcolon' : Picture.colon ∉ Markup.escape path.toText := by
    intro hc
    exact (List.mem_cons.1 (Markup.escape_subset _ hc)).elim (by decide) hcolon
  refine Showing.one_stop.2 (exists_printed_eq_ok ?_ ?_ job.width)
  · simp only [Text.concat, backquoted, List.flatten_cons, List.flatten_nil, List.append_nil,
      List.mem_append, not_or]
    exact ⟨by decide, by decide, hcolon', by decide⟩
  · simp only [Text.concat, backquoted, List.flatten_cons, List.flatten_nil, List.append_nil,
      measuresEvenly_append]
    exact ⟨by decide, by decide, measuresEvenly_escape heven, by decide⟩

theorem conclude_ok (job : Job) (run : Run) : (job.conclude (.ok (), run)).1 = .exit exitDone := by
  unfold conclude Run.sayThen
  rw [job.doneLine_stop]

theorem conclude_failed {job : Job} {failure : Failure} (run : Run)
    (h : (Report.ofFailure job.width failure).stop = none) :
    (job.conclude (.error (.failed failure), run)).1 = .exit failure.exitCode := by
  unfold conclude Run.sayThen
  dsimp only
  rw [h]

theorem conclude_error_ne (job : Job) (halt : Halt) (run : Run) :
    (job.conclude (.error halt, run)).1 ≠ .exit exitDone := by
  rcases halt with failure | escape
  · unfold conclude Run.sayThen
    dsimp only
    split
    · intro h
      injection h with h
      exact failure.exitCode_ne_zero h
    · simp
  · cases escape with
    | interrupted =>
      unfold conclude Run.sayThen
      dsimp only
      split <;> simp [exitInterrupted, exitDone]
    | _ => simp [conclude]

end Command.Job

end Nomenclator
