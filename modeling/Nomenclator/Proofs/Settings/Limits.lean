import Mathlib.Logic.Basic
import Nomenclator.Settings.Basic

/-!
# What settings let through

However settings come about, a model is named in them, and both timeouts have passed the check that
refuses what is known to be zero or below. That check lets NaN through, and NaN is not above zero:
so the timeouts are positive just when neither of them is NaN.
-/

namespace Nomenclator

/-! ## Positive numbers -/

/-- Above zero. NaN is not. -/
def Binary64.IsPositive : Binary64 → Prop
  | nan => False
  | infinity negative => negative = false
  | finite negative significand _ => negative = false ∧ significand ≠ 0

namespace Value

def IsNumber : Value → Prop
  | .boolean _ | .integer _ | .real _ => True
  | _ => False

/-- A number above zero. -/
def IsPositive : Value → Prop
  | .boolean b => b = true
  | .integer n => 0 < n
  | .real x => x.IsPositive
  | _ => False

/-- What the check of a timeout lets through. -/
def IsPositiveOrNaN (v : Value) : Prop := v.IsPositive ∨ v = .real .nan

variable {v : Value}

theorem atMostZero?_eq_false_iff : v.atMostZero? = some false ↔ v.IsPositiveOrNaN := by
  cases v with
  | boolean b => simp [atMostZero?, IsPositiveOrNaN, IsPositive]
  | integer n => simp [atMostZero?, IsPositiveOrNaN, IsPositive]
  | real x =>
    cases x <;>
      simp [atMostZero?, IsPositiveOrNaN, IsPositive, Binary64.atMostZero, Binary64.IsPositive]
  | _ => simp [atMostZero?, IsPositiveOrNaN, IsPositive]

theorem IsNumber.isSome_atMostZero? (h : v.IsNumber) : v.atMostZero?.isSome = true := by
  cases v <;> simp_all [IsNumber, atMostZero?]

theorem isPositive_iff_of_atMostZero? (h : v.atMostZero? = some false) :
    v.IsPositive ↔ v ≠ .real .nan := by
  rcases atMostZero?_eq_false_iff.1 h with hpositive | rfl
  · refine iff_of_true hpositive ?_
    rintro rfl
    exact hpositive
  · exact iff_of_false id (not_not.2 rfl)

end Value

namespace Settings

/-! ## Making -/

/-- A model is named and both timeouts are above zero. -/
structure IsSound (s : Settings) : Prop where
  named : s.model.isTrue = true
  timeout : s.timeout.IsPositive
  connectTimeout : s.connectTimeout.IsPositive

theorem isSound_iff (s : Settings) :
    s.IsSound ↔ s.timeout ≠ .real .nan ∧ s.connectTimeout ≠ .real .nan := by
  rw [← Value.isPositive_iff_of_atMostZero? s.timeout_ok,
    ← Value.isPositive_iff_of_atMostZero? s.connectTimeout_ok]
  exact ⟨fun h => ⟨h.timeout, h.connectTimeout⟩, fun h => ⟨s.model_named, h.1, h.2⟩⟩

variable {timeout connectTimeout : Value}

theorem checkTimeout_of_passes (field : Text) (h : timeout.IsPositiveOrNaN) :
    ∃ passed, checkTimeout field timeout = .ok passed := by
  unfold checkTimeout
  rw [dif_pos (Value.atMostZero?_eq_false_iff.2 h)]
  exact ⟨_, rfl⟩

theorem checkTimeout_of_fails (field : Text) (hnumber : timeout.IsNumber)
    (h : ¬timeout.IsPositiveOrNaN) :
    checkTimeout field timeout = .error (.badValue (notPositiveMessage field timeout)) := by
  unfold checkTimeout
  rw [dif_neg (mt Value.atMostZero?_eq_false_iff.1 h), if_pos hnumber.isSome_atMostZero?]

/-- What has to hold of the fields of settings. -/
def IsAcceptable (model timeout connectTimeout : Value) : Prop :=
  model.isTrue = true ∧ timeout.IsPositiveOrNaN ∧ connectTimeout.IsPositiveOrNaN

theorem make_of_isAcceptable (baseUrl : Value) {model : Value} (temperature : Value)
    (h : IsAcceptable model timeout connectTimeout) :
    ∃ s, make baseUrl model timeout connectTimeout temperature = .ok s ∧
      s.fields = ([("base_url", baseUrl), ("model", model), ("timeout", timeout),
        ("connect_timeout", connectTimeout), ("temperature", temperature)] : Entries Value) := by
  obtain ⟨hmodel, htimeout, hconnect⟩ := h
  obtain ⟨⟨_⟩, htimeout⟩ := checkTimeout_of_passes "timeout" htimeout
  obtain ⟨⟨_⟩, hconnect⟩ := checkTimeout_of_passes "connect_timeout" hconnect
  rw [make, dif_pos hmodel, htimeout, hconnect]
  exact ⟨_, rfl, rfl⟩

theorem make_of_not_isAcceptable (baseUrl : Value) {model : Value} (temperature : Value)
    (htimeout : timeout.IsNumber) (hconnect : connectTimeout.IsNumber)
    (h : ¬IsAcceptable model timeout connectTimeout) :
    ∃ message, make baseUrl model timeout connectTimeout temperature =
      .error (.badValue message) := by
  unfold make
  by_cases hmodel : model.isTrue = true
  · rw [dif_pos hmodel]
    by_cases hpasses : timeout.IsPositiveOrNaN
    · obtain ⟨⟨_⟩, hpassed⟩ := checkTimeout_of_passes "timeout" hpasses
      have hfails := checkTimeout_of_fails "connect_timeout" hconnect fun hother =>
        h ⟨hmodel, hpasses, hother⟩
      rw [hpassed, hfails]
      exact ⟨_, rfl⟩
    · rw [checkTimeout_of_fails "timeout" htimeout hpasses]
      exact ⟨_, rfl⟩
  · rw [dif_neg hmodel]
    exact ⟨_, rfl⟩

theorem make_eq_ok {baseUrl model timeout connectTimeout temperature : Value} {s : Settings}
    (h : make baseUrl model timeout connectTimeout temperature = .ok s) :
    s.baseUrl = baseUrl ∧ s.model = model ∧ s.timeout = timeout ∧
      s.connectTimeout = connectTimeout ∧ s.temperature = temperature := by
  unfold make at h
  split at h
  · split at h
    · injection h with h
      subst h
      exact ⟨rfl, rfl, rfl, rfl, rfl⟩
    · simp at h
    · simp at h
  · simp at h

/-! ## Changing -/

/-- A change of one field. -/
inductive Change where
  | baseUrl (value : Value)
  | model (value : Value)
  | timeout (value : Value)

namespace Change

def field : Change → Text
  | .baseUrl _ => "base_url"
  | .model _ => "model"
  | .timeout _ => "timeout"

def value : Change → Value
  | .baseUrl value | .model value | .timeout value => value

def apply (s : Settings) : Change → Except Escape Settings
  | .baseUrl value => s.withBaseUrl value
  | .model value => s.withModel value
  | .timeout value => s.withTimeout value

/-- The new timeout, if it is one, is a number. -/
def IsNumeric : Change → Prop
  | .timeout value => value.IsNumber
  | _ => True

def IsAcceptable : Change → Prop
  | .baseUrl _ => True
  | .model value => value.isTrue = true
  | .timeout value => value.IsPositiveOrNaN

end Change

theorem timeout_passes (s : Settings) : s.timeout.IsPositiveOrNaN :=
  Value.atMostZero?_eq_false_iff.1 s.timeout_ok

theorem connectTimeout_passes (s : Settings) : s.connectTimeout.IsPositiveOrNaN :=
  Value.atMostZero?_eq_false_iff.1 s.connectTimeout_ok

theorem apply_of_isAcceptable (s : Settings) {change : Change} (h : change.IsAcceptable) :
    ∃ s', change.apply s = .ok s' ∧ s'.fields = s.fields.put change.field change.value := by
  cases change with
  | baseUrl value =>
    exact make_of_isAcceptable value s.temperature
      ⟨s.model_named, s.timeout_passes, s.connectTimeout_passes⟩
  | model value =>
    exact make_of_isAcceptable s.baseUrl s.temperature
      ⟨h, s.timeout_passes, s.connectTimeout_passes⟩
  | timeout value =>
    exact make_of_isAcceptable s.baseUrl s.temperature
      ⟨s.model_named, h, s.connectTimeout_passes⟩

theorem isNumber_of_passes {v : Value} (h : v.IsPositiveOrNaN) : v.IsNumber := by
  rcases h with h | rfl
  · cases v <;> simp_all [Value.IsPositive, Value.IsNumber]
  · trivial

theorem apply_of_not_isAcceptable (s : Settings) {change : Change} (hnumeric : change.IsNumeric)
    (h : ¬change.IsAcceptable) : ∃ message, change.apply s = .error (.badValue message) := by
  have htimeout := isNumber_of_passes s.timeout_passes
  have hconnect := isNumber_of_passes s.connectTimeout_passes
  cases change with
  | baseUrl value => exact absurd trivial h
  | model value =>
    exact make_of_not_isAcceptable s.baseUrl s.temperature htimeout hconnect fun hall => h hall.1
  | timeout value =>
    exact make_of_not_isAcceptable s.baseUrl s.temperature hnumeric hconnect fun hall => h hall.2.1

/-- A chain of changes goes through if every one of them is acceptable; then each field has the last
value that it was given. -/
theorem foldlM_of_isAcceptable (s : Settings) {changes : List Change}
    (h : ∀ change ∈ changes, change.IsAcceptable) :
    ∃ s', changes.foldlM Change.apply s = .ok s' ∧
      s'.fields =
        changes.foldl (fun fields change => fields.put change.field change.value) s.fields := by
  induction changes generalizing s with
  | nil => exact ⟨s, rfl, rfl⟩
  | cons change rest ih =>
    obtain ⟨hchange, hrest⟩ := List.forall_mem_cons.1 h
    obtain ⟨s₁, happly, hfields₁⟩ := apply_of_isAcceptable s hchange
    obtain ⟨s₂, hfold, hfields₂⟩ := ih s₁ hrest
    refine ⟨s₂, ?_, ?_⟩
    · rw [List.foldlM_cons, happly]
      exact hfold
    · rw [hfields₂, hfields₁, List.foldl_cons]

theorem foldlM_of_not_isAcceptable (s : Settings) {changes : List Change}
    (hnumeric : ∀ change ∈ changes, change.IsNumeric)
    (h : ¬∀ change ∈ changes, change.IsAcceptable) :
    ∃ message, changes.foldlM Change.apply s = .error (.badValue message) := by
  induction changes generalizing s with
  | nil => simp at h
  | cons change rest ih =>
    obtain ⟨hchange, hrest⟩ := List.forall_mem_cons.1 hnumeric
    rw [List.foldlM_cons]
    by_cases haccept : change.IsAcceptable
    · obtain ⟨s₁, happly, -⟩ := apply_of_isAcceptable s haccept
      rw [happly]
      exact ih s₁ hrest fun hall => h (List.forall_mem_cons.2 ⟨haccept, hall⟩)
    · obtain ⟨message, happly⟩ := apply_of_not_isAcceptable s hchange haccept
      rw [happly]
      exact ⟨message, rfl⟩

end Settings

end Nomenclator
