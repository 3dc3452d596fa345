import Nomenclator.Proofs.Settings.Environment
import Nomenclator.Proofs.Settings.Limits
import Nomenclator.Settings.Resolution

/-!
# Settings from several sources

Each field of the settings is given by the first source that has it. What is given is read, as far
as it has to be a number, and then the settings are made of it. All that can happen on the way is
stated once here, for what is given and then for the steps before it.
-/

namespace Nomenclator.Settings

/-! ## What is given -/

/-- The values of the fields as the sources have them. -/
structure Given where
  baseUrl : Value
  model : Value
  timeout : Value
  connectTimeout : Value
  temperature : Value

def given (options : Options) (environment : Environment) (project : Entries Value) : Given where
  baseUrl := choose options.baseUrl (environment.get? Environment.baseUrlVariable)
    (project.get? "base_url") defaultBaseUrl
  model := choose options.model (environment.get? Environment.modelVariable)
    (project.get? "model") defaultModel
  timeout := (options.timeout <|> project.get? "timeout").getD (.real defaultTimeout)
  connectTimeout := (project.get? "connect_timeout").getD (.real defaultConnectTimeout)
  temperature := (project.get? "temperature").getD .null

/-- There is no text, or it is empty. -/
def IsUnset (t? : Option Text) : Prop := ∀ t, t? = some t → t = []

/-- A name or an address comes from the option, else from the variable, if they are not empty; else
from the project file, if that has it; else it is the default. -/
inductive Chosen (option envValue : Option Text) (project : Option Value) (default : Text) :
    Value → Prop
  | option {t : Text} (h : option = some t) (hsome : t ≠ []) :
    Chosen option envValue project default (.text t)
  | environment {t : Text} (hoption : IsUnset option) (h : envValue = some t) (hsome : t ≠ []) :
    Chosen option envValue project default (.text t)
  | project {v : Value} (hoption : IsUnset option) (hvalue : IsUnset envValue)
      (h : project = some v) : Chosen option envValue project default v
  | default (hoption : IsUnset option) (hvalue : IsUnset envValue) (h : project = none) :
    Chosen option envValue project default (.text default)

theorem filter_cases (t? : Option Text) :
    (∃ t, t? = some t ∧ t ≠ [] ∧ (t?.filter fun t => !t.isEmpty) = some t) ∨
      IsUnset t? ∧ (t?.filter fun t => !t.isEmpty) = none := by
  cases t? with
  | none => exact .inr ⟨nofun, rfl⟩
  | some t =>
    by_cases h : t = []
    · exact .inr ⟨by simp [IsUnset, h], by simp [h]⟩
    · exact .inl ⟨t, rfl, h, by simp [h]⟩

theorem chosen_choose (option envValue : Option Text) (project : Option Value) (default : Text) :
    Chosen option envValue project default (choose option envValue project default) := by
  unfold choose firstNonEmpty
  rcases filter_cases option with ⟨t, hoption, hsome, hfilter⟩ | ⟨hoption, hfilter⟩
  · rw [hfilter]
    exact .option hoption hsome
  · rw [hfilter]
    rcases filter_cases envValue with ⟨t, hvalue, hsome, hfilter'⟩ | ⟨hvalue, hfilter'⟩
    · rw [hfilter']
      exact .environment hoption hvalue hsome
    · rw [hfilter']
      cases project with
      | some v => exact .project hoption hvalue rfl
      | none => exact .default hoption hvalue rfl

/-! ## Readings -/

namespace Given

variable (g : Given)

/-- What is read of the values that have to be numbers. -/
structure Reads (x y : Binary64) (z : Value) : Prop where
  timeout : toReal g.timeout = .ok x
  connectTimeout : toReal g.connectTimeout = .ok y
  temperature : (temperatureOf g.temperature).1 = .ok z

/-- The values that are not read can be spelled out. -/
def IsTold : Prop := g.baseUrl.isSpelled = true ∧ g.model.isSpelled = true

end Given

/-- Any value that counts as a temperature can be spelled out. -/
theorem isSpelled_of_temperatureOf {value z : Value} (h : (temperatureOf value).1 = .ok z) :
    z.isSpelled = true := by
  unfold temperatureOf at h
  split at h
  · obtain rfl := Except.ok.inj h
    rfl
  · split at h
    · obtain rfl := Except.ok.inj h
      rfl
    · simp at h
    · split at h
      · obtain rfl := Except.ok.inj h
        rfl
      · simp at h

theorem canBeTold_iff {g : Given} {x y : Binary64} {z : Value} {s : Settings} (h : g.Reads x y z)
    (hmade : make g.baseUrl g.model (.real x) (.real y) z = .ok s) :
    s.canBeTold = true ↔ g.IsTold := by
  obtain ⟨hbase, hmodel, htimeout, hconnect, htemperature⟩ := make_eq_ok hmade
  have hz := isSpelled_of_temperatureOf h.temperature
  simp only [canBeTold, fields, hbase, hmodel, htimeout, hconnect, htemperature, List.all_cons,
    List.all_nil, Value.isSpelled, hz, Bool.and_true, Bool.and_eq_true, Given.IsTold]

/-! ## Settings from what is given -/

/-- All that can become of what is given. -/
inductive Combined (g : Given) : Except Escape Settings → Prop
  | timeout {e : Escape} (h : toReal g.timeout = .error e) : Combined g (.error e)
  | connectTimeout {x : Binary64} {e : Escape} (htimeout : toReal g.timeout = .ok x)
      (h : toReal g.connectTimeout = .error e) : Combined g (.error e)
  | temperature {x y : Binary64} {e : Escape} (htimeout : toReal g.timeout = .ok x)
      (hconnect : toReal g.connectTimeout = .ok y)
      (h : (temperatureOf g.temperature).1 = .error e) : Combined g (.error e)
  | refused {x y : Binary64} {z : Value} {message : Text} (h : g.Reads x y z)
      (hnot : ¬(IsAcceptable g.model (.real x) (.real y) ∧ g.IsTold)) :
    Combined g (.error (.badValue message))
  | made {x y : Binary64} {z : Value} {s : Settings} (h : g.Reads x y z)
      (haccept : IsAcceptable g.model (.real x) (.real y)) (htold : g.IsTold)
      (hmade : make g.baseUrl g.model (.real x) (.real y) z = .ok s) :
    Combined g (.ok s)

theorem combined_combine (options : Options) (environment : Environment)
    (project : Entries Value) :
    Combined (given options environment project) (combine options environment project).1 := by
  unfold combine
  dsimp only
  split
  · next htimeout => exact .timeout htimeout
  · next x htimeout =>
    split
    · next hconnect => exact .connectTimeout htimeout hconnect
    · next y hconnect =>
      split
      · next htemperature => exact .temperature htimeout hconnect (congrArg Prod.fst htemperature)
      · next z _ htemperature =>
        have hreads : (given options environment project).Reads x y z :=
          ⟨htimeout, hconnect, congrArg Prod.fst htemperature⟩
        by_cases haccept :
            IsAcceptable (given options environment project).model (.real x) (.real y)
        · obtain ⟨s, hmade, -⟩ :=
            make_of_isAcceptable (given options environment project).baseUrl z haccept
          have htell := canBeTold_iff hreads hmade
          by_cases htold : (given options environment project).IsTold
          · have hcombined := Combined.made hreads haccept htold hmade
            simp only [given] at hmade
            simp only [hmade, htell.2 htold, if_true]
            exact hcombined
          · simp only [given] at hmade
            simp only [hmade, mt htell.1 htold]
            exact .refused hreads fun h => htold h.2
        · have hnumber (x : Binary64) : (Value.real x).IsNumber := trivial
          obtain ⟨message, hrefused⟩ := make_of_not_isAcceptable
            (given options environment project).baseUrl z (hnumber x) (hnumber y) haccept
          simp only [given] at hrefused
          simp only [hrefused]
          exact .refused hreads fun h => haccept h.1

theorem combine_eq_ok {options : Options} {environment : Environment} {project : Entries Value}
    {s : Settings} (h : (combine options environment project).1 = .ok s) :
    ∃ x y z, (given options environment project).Reads x y z ∧
      make (given options environment project).baseUrl (given options environment project).model
        (.real x) (.real y) z = .ok s := by
  have hcombined := combined_combine options environment project
  rw [h] at hcombined
  cases hcombined with
  | made hreads _ _ hmade => exact ⟨_, _, _, hreads, hmade⟩

/-! ## Resolution -/

section Resolution

variable (options : Options) (environment : Environment) (tree : FileTree) (base : Location)
  (root home : Path)

/-- Settings are resolved in three steps: the environment is completed, the project file is read,
and what is given then is put together. The first step that fails is the last one. -/
inductive Resolved : Except Escape Settings → Environment → Prop
  | environment {e : Escape} {stopped : Environment}
      (h : environment.afterFiles tree base (Environment.filePaths [root] home) =
        (.error e, stopped)) :
    Resolved (.error e) stopped
  | project {completed : Environment} {e : Escape}
      (h : environment.afterFiles tree base (Environment.filePaths [root] home) =
        (.ok (), completed))
      (hproject : (Project.load tree base (root.child Project.fileName)).1 = .error e) :
    Resolved (.error e) completed
  | combined {completed : Environment} {project : Entries Value}
      (h : environment.afterFiles tree base (Environment.filePaths [root] home) =
        (.ok (), completed))
      (hproject : (Project.load tree base (root.child Project.fileName)).1 = .ok project) :
    Resolved (combine options completed project).1 completed

theorem resolved_resolve :
    Resolved options environment tree base root home
      (resolve options environment tree base root home).result
      (resolve options environment tree base root home).environment := by
  unfold resolve
  split
  · next e stopped log hload =>
    refine .environment ?_
    rw [Environment.afterFiles, hload]
  · next completed log hload =>
    have hfiles : environment.afterFiles tree base (Environment.filePaths [root] home) =
        (.ok (), completed) := by
      rw [Environment.afterFiles, hload]
    split
    · next hproject => exact .project hfiles (congrArg Prod.fst hproject)
    · next hproject => exact .combined hfiles (congrArg Prod.fst hproject)

variable {options environment tree base root home}

theorem resolve_eq_ok {s : Settings}
    (h : (resolve options environment tree base root home).result = .ok s) :
    ∃ completed project,
      (resolve options environment tree base root home).environment = completed ∧
      environment.afterFiles tree base (Environment.filePaths [root] home) =
        (.ok (), completed) ∧
      (Project.load tree base (root.child Project.fileName)).1 = .ok project ∧
      (combine options completed project).1 = .ok s := by
  have hresolved := resolved_resolve options environment tree base root home
  generalize (resolve options environment tree base root home).environment = completed
    at hresolved ⊢
  generalize (resolve options environment tree base root home).result = result at h hresolved
  cases hresolved with
  | environment => simp at h
  | project => simp at h
  | combined hfiles hproject => exact ⟨_, _, rfl, hfiles, hproject, h⟩

/-! ## Where nothing is given -/

theorem combine_default (hbase : environment.get? Environment.baseUrlVariable = none)
    (hmodel : environment.get? Environment.modelVariable = none) :
    (combine ⟨none, none, none⟩ environment []).1 = .ok .default := by
  have htold : Settings.default.canBeTold = true := by decide
  have hmake : make (.text defaultBaseUrl) (.text defaultModel) (.real defaultTimeout)
      (.real defaultConnectTimeout) .null = .ok .default := rfl
  have hmissing (key : Text) : Entries.get? key ([] : Entries Value) = none := rfl
  have hchosen (text : Text) : choose none none none text = .text text := rfl
  unfold combine
  simp only [hbase, hmodel, hmissing, hchosen]
  simp [toReal, temperatureOf, hmake, htold]

theorem resolve_default
    (hfiles : ∀ path ∈ Environment.filePaths [root] home, tree.pathExists base path = .ok false)
    (hproject : tree.pathExists base (root.child Project.fileName) = .ok false)
    (hbase : environment.get? Environment.baseUrlVariable = none)
    (hmodel : environment.get? Environment.modelVariable = none) :
    (resolve ⟨none, none, none⟩ environment tree base root home).result = .ok .default := by
  have hsame : Environment.afterFiles tree base environment (Environment.filePaths [root] home) =
      (.ok (), environment) := Environment.afterFiles_of_missing hfiles
  have hload : (Project.load tree base (root.child Project.fileName)).1 = .ok [] := by
    rw [Project.load, hproject]
  have hresolved := resolved_resolve ⟨none, none, none⟩ environment tree base root home
  generalize (resolve ⟨none, none, none⟩ environment tree base root home).environment = completed
    at hresolved
  generalize (resolve ⟨none, none, none⟩ environment tree base root home).result = result
    at hresolved ⊢
  cases hresolved with
  | environment h => simp [hsame] at h
  | project _ h => simp [hload] at h
  | combined h hproject' =>
    obtain rfl := congrArg Prod.snd (hsame.symm.trans h)
    obtain rfl := Except.ok.inj (hload.symm.trans hproject')
    exact combine_default hbase hmodel

end Resolution

end Nomenclator.Settings
