import Nomenclator.Proofs.Settings.Combination

/-!
# Sound settings

Settings come about in three ways: they are made of their fields, they are changed, and they are
resolved. On each of the ways they are sound unless a timeout is NaN.
-/

namespace Nomenclator.Settings

/-- Values that are acceptable make settings with these fields. Any others are said to be bad. -/
def IsMadeIf (acceptable : Prop) (fields : Entries Value) (result : Except Escape Settings) :
    Prop :=
  (acceptable → ∃ s, result = .ok s ∧ s.fields = fields) ∧
    (¬acceptable → ∃ message, result = .error (.badValue message))

theorem resolved_isSound_iff {options : Options} {environment : Environment} {tree : FileTree}
    {base : Location} {root home : Path} {s : Settings}
    (h : (resolve options environment tree base root home).result = .ok s) :
    ∃ project x y, (Project.load tree base (root.child Project.fileName)).1 = .ok project ∧
      toReal ((options.timeout <|> project.get? "timeout").getD (.real defaultTimeout)) = .ok x ∧
      toReal ((project.get? "connect_timeout").getD (.real defaultConnectTimeout)) = .ok y ∧
      (s.IsSound ↔ x ≠ .nan ∧ y ≠ .nan) := by
  obtain ⟨completed, project, -, -, hproject, hcombine⟩ := resolve_eq_ok h
  obtain ⟨x, y, z, hreads, hmade⟩ := combine_eq_ok hcombine
  obtain ⟨-, -, htimeout, hconnect, -⟩ := make_eq_ok hmade
  refine ⟨project, x, y, hproject, hreads.timeout, hreads.connectTimeout, ?_⟩
  rw [isSound_iff, htimeout, hconnect, ne_eq, Value.real.injEq, ne_eq, Value.real.injEq]

/-- Settings are sound just when neither timeout is NaN, however they come about. They are made of
any numbers that are not known to be zero or below, and changed, one field at a time, to any others;
resolved settings have the timeouts that are given, as real numbers. -/
theorem isSound_iff_neitherIsNaN (s : Settings) :
    (s.IsSound ↔ s.timeout ≠ .real .nan ∧ s.connectTimeout ≠ .real .nan) ∧
    (∀ baseUrl model timeout connectTimeout temperature : Value,
      timeout.IsNumber → connectTimeout.IsNumber →
        IsMadeIf (IsAcceptable model timeout connectTimeout)
          [("base_url", baseUrl), ("model", model), ("timeout", timeout),
            ("connect_timeout", connectTimeout), ("temperature", temperature)]
          (make baseUrl model timeout connectTimeout temperature)) ∧
    (∀ changes : List Change, (∀ change ∈ changes, change.IsNumeric) →
      IsMadeIf (∀ change ∈ changes, change.IsAcceptable)
        (changes.foldl (fun fields change => fields.put change.field change.value) s.fields)
        (changes.foldlM Change.apply s)) ∧
    ∀ (options : Options) (environment : Environment) (tree : FileTree) (base : Location)
      (root home : Path),
      (resolve options environment tree base root home).result = .ok s →
        ∃ project x y, (Project.load tree base (root.child Project.fileName)).1 = .ok project ∧
          toReal ((options.timeout <|> project.get? "timeout").getD (.real defaultTimeout)) =
            .ok x ∧
          toReal ((project.get? "connect_timeout").getD (.real defaultConnectTimeout)) = .ok y ∧
          (s.IsSound ↔ x ≠ .nan ∧ y ≠ .nan) := by
  refine ⟨isSound_iff s, ?_, ?_, ?_⟩
  · intro baseUrl model timeout connectTimeout temperature htimeout hconnect
    exact ⟨make_of_isAcceptable baseUrl temperature,
      make_of_not_isAcceptable baseUrl temperature htimeout hconnect⟩
  · intro changes hnumeric
    exact ⟨foldlM_of_isAcceptable s, foldlM_of_not_isAcceptable s hnumeric⟩
  · intro options environment tree base root home h
    exact resolved_isSound_iff h

/-- A timeout of NaN is refused by no check. -/
theorem make_isNotSound_nan :
    ∃ s, make (.text defaultBaseUrl) (.text defaultModel) (.real .nan)
      (.real defaultConnectTimeout) .null = .ok s ∧ ¬s.IsSound := by
  have haccept : IsAcceptable (.text defaultModel) (.real .nan) (.real defaultConnectTimeout) :=
    ⟨default.model_named, .inr rfl, default.connectTimeout_passes⟩
  obtain ⟨s, hmake, -⟩ := make_of_isAcceptable (.text defaultBaseUrl) .null haccept
  exact ⟨s, hmake, fun hsound => ((isSound_iff s).1 hsound).1 (make_eq_ok hmake).2.2.1⟩

end Nomenclator.Settings
