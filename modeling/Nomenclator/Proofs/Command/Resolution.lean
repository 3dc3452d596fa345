import Mathlib.Data.List.Basic
import Nomenclator.Command.Program
import Nomenclator.Proofs.Files.Tree
import Nomenclator.Proofs.Settings.Combination
import Nomenclator.Proofs.Settings.Project
import Nomenclator.Proofs.Text.Utf8

/-!
# How the resolution of settings ends

Before a command does anything it resolves its settings. That is to give it settings with texts for
the address and the model, or to be refused with a word on the value that is bad. What keeps it from
that is a value of a type that nobody checks, a number that is too large, a project file with an
obstacle, an environment file that is locked, or a file name that is too long.
-/

namespace Nomenclator

/-! ## Numbers -/

namespace Value

def IsText (v : Value) : Prop := ∃ t, v = .text t

/-- An integer so large that there is no real number for it. -/
def IsTooLarge : Value → Prop
  | .integer n => Binary64.ofInt? n = none
  | _ => False

/-- No real number can be read of the value, and it is no text either. -/
def IsUnreadable : Value → Prop
  | .boolean _ | .real _ | .text _ => False
  | .integer n => Binary64.ofInt? n = none
  | _ => True

end Value

namespace Settings

variable {v : Value} {e : Escape}

theorem toReal_integer_of_none {n : Int} (h : Binary64.ofInt? n = none) :
    toReal (.integer n) = .error .overflow := by
  simp only [toReal, h]

theorem toReal_eq_error (h : toReal v = .error e) : e.isBadValue = false ↔ v.IsUnreadable := by
  cases v with
  | boolean b => simp [toReal] at h
  | real x => simp [toReal] at h
  | integer n =>
    cases hn : Binary64.ofInt? n with
    | some x => simp [toReal, hn] at h
    | none =>
      obtain rfl := Except.error.inj ((toReal_integer_of_none hn).symm.trans h)
      exact iff_of_true rfl hn
  | text t =>
    unfold toReal at h
    dsimp only at h
    split at h
    · simp at h
    · obtain rfl := Except.error.inj h
      exact iff_of_false (by simp [Escape.isBadValue]) id
  | null | list _ | table _ | moment _ =>
    obtain rfl := Except.error.inj h
    exact iff_of_true rfl trivial

theorem exists_toReal_eq_error (h : v.IsUnreadable) : ∃ e, toReal v = .error e := by
  cases v with
  | integer n => exact ⟨_, toReal_integer_of_none h⟩
  | boolean _ | real _ | text _ => exact h.elim
  | null | list _ | table _ | moment _ => exact ⟨_, rfl⟩

theorem toReal_eq_overflow_iff : toReal v = .error .overflow ↔ v.IsTooLarge := by
  cases v with
  | integer n =>
    cases hn : Binary64.ofInt? n with
    | some x => simp [toReal, Value.IsTooLarge, hn]
    | none => exact iff_of_true (toReal_integer_of_none hn) hn
  | text t =>
    refine iff_of_false ?_ id
    unfold toReal
    dsimp only
    split <;> simp
  | boolean _ | real _ | null | list _ | table _ | moment _ => simp [toReal, Value.IsTooLarge]

theorem temperatureOf_of_isTooLarge (h : v.IsTooLarge) :
    (temperatureOf v).1 = .error .overflow := by
  unfold temperatureOf
  split
  · exact h.elim
  · rw [toReal_eq_overflow_iff.2 h]

theorem temperatureOf_eq_error (h : (temperatureOf v).1 = .error e) :
    e.isBadValue = false ↔ v.IsTooLarge := by
  unfold temperatureOf at h
  split at h
  · simp at h
  · split at h
    · simp at h
    · next hlarge =>
      obtain rfl := Except.error.inj h
      exact iff_of_true rfl (toReal_eq_overflow_iff.1 hlarge)
    · next hother herror =>
      split at h
      · simp at h
      · obtain rfl := Except.error.inj h
        refine iff_of_false (by simp [Escape.isBadValue]) fun hlarge => ?_
        exact hother (Except.error.inj (herror.symm.trans (toReal_eq_overflow_iff.2 hlarge)))

/-! ## Values nobody checks -/

/-- The settings have texts for the address and the model, or a value is said to be bad. -/
def IsInOrder : Except Escape Settings → Prop
  | .ok s => s.baseUrl.IsText ∧ s.model.IsText
  | .error e => e.isBadValue = true

/-- The first of the given values that nobody checks: the timeouts come first, then the temperature,
and then, if there is nothing else to say against them, the address and the model. -/
inductive Given.IsUnchecked (g : Given) : Prop
  | timeout (h : g.timeout.IsUnreadable)
  | connectTimeout {x : Binary64} (htimeout : toReal g.timeout = .ok x)
      (h : g.connectTimeout.IsUnreadable)
  | temperature {x y : Binary64} (htimeout : toReal g.timeout = .ok x)
      (hconnect : toReal g.connectTimeout = .ok y) (h : g.temperature.IsTooLarge)
  | notText {x y : Binary64} {z : Value} (h : g.Reads x y z)
      (haccept : IsAcceptable g.model (.real x) (.real y)) (htold : g.IsTold)
      (hother : ¬(g.baseUrl.IsText ∧ g.model.IsText))

variable {g : Given} {result : Except Escape Settings}

theorem isUnchecked_of_not_isInOrder (h : Combined g result) (hnot : ¬IsInOrder result) :
    g.IsUnchecked := by
  cases h with
  | timeout h => exact .timeout ((toReal_eq_error h).1 (Bool.not_eq_true _ ▸ hnot))
  | connectTimeout htimeout h =>
    exact .connectTimeout htimeout ((toReal_eq_error h).1 (Bool.not_eq_true _ ▸ hnot))
  | temperature htimeout hconnect h =>
    exact .temperature htimeout hconnect
      ((temperatureOf_eq_error h).1 (Bool.not_eq_true _ ▸ hnot))
  | refused => exact absurd rfl hnot
  | made h haccept htold hmade =>
    obtain ⟨hbase, hmodel, -⟩ := make_eq_ok hmade
    rw [IsInOrder, hbase, hmodel] at hnot
    exact .notText h haccept htold hnot

theorem not_isInOrder_of_timeout (h : Combined g result) (hunreadable : g.timeout.IsUnreadable) :
    ¬IsInOrder result := by
  obtain ⟨e, herror⟩ := exists_toReal_eq_error hunreadable
  cases h with
  | timeout h =>
    have hbad := (toReal_eq_error h).2 hunreadable
    simp [IsInOrder, hbad]
  | connectTimeout htimeout | temperature htimeout => simp [herror] at htimeout
  | refused h | made h => simp [h.timeout] at herror

theorem not_isInOrder_of_isUnchecked (h : Combined g result) (hunchecked : g.IsUnchecked) :
    ¬IsInOrder result := by
  cases hunchecked with
  | timeout hunreadable => exact not_isInOrder_of_timeout h hunreadable
  | connectTimeout htimeout hunreadable =>
    obtain ⟨e, herror⟩ := exists_toReal_eq_error hunreadable
    cases h with
    | timeout h => simp [htimeout] at h
    | connectTimeout _ h =>
      have hbad := (toReal_eq_error h).2 hunreadable
      simp [IsInOrder, hbad]
    | temperature _ hconnect => simp [herror] at hconnect
    | refused h | made h => simp [h.connectTimeout] at herror
  | temperature htimeout hconnect hlarge =>
    have herror := temperatureOf_of_isTooLarge hlarge
    cases h with
    | timeout h => simp [htimeout] at h
    | connectTimeout _ h => simp [hconnect] at h
    | temperature _ _ h =>
      have hbad := (temperatureOf_eq_error h).2 hlarge
      simp [IsInOrder, hbad]
    | refused h | made h => simp [h.temperature] at herror
  | notText hreads haccept htold hother =>
    cases h with
    | timeout h => simp [hreads.timeout] at h
    | connectTimeout _ h => simp [hreads.connectTimeout] at h
    | temperature _ _ h => simp [hreads.temperature] at h
    | refused h hnot =>
      obtain rfl := Except.ok.inj (hreads.timeout.symm.trans h.timeout)
      obtain rfl := Except.ok.inj (hreads.connectTimeout.symm.trans h.connectTimeout)
      exact absurd ⟨haccept, htold⟩ hnot
    | made _ _ _ hmade =>
      obtain ⟨hbase, hmodel, -⟩ := make_eq_ok hmade
      rw [IsInOrder, hbase, hmodel]
      exact hother

/-! ## What nobody foresees -/

section

variable (options : Options) (environment : Environment) (tree : FileTree) (base : Location)
  (root home : Path)

/-- What ends the resolution of settings in another way than it should. Each of the three steps has
its own: an environment file that cannot be looked at, an obstacle in the project file that is no
bad value, and a value that nobody checks. -/
inductive IsUnforeseen : Prop
  | shutFile {before rest : List Path} {path : Path} {completed : Environment}
      (hpaths : Environment.filePaths [root] home = before ++ path :: rest)
      (hbefore : environment.afterFiles tree base before = (.ok (), completed))
      (h : completed.IsShut tree base path)
  | obstacle {completed : Environment} {e : Escape}
      (hfiles : environment.afterFiles tree base (Environment.filePaths [root] home) =
        (.ok (), completed))
      (h : Project.Obstacle tree base (root.child Project.fileName) e) (hbad : e.isBadValue = false)
  | unchecked {completed : Environment} {project : Entries Value}
      (hfiles : environment.afterFiles tree base (Environment.filePaths [root] home) =
        (.ok (), completed))
      (hproject : (Project.load tree base (root.child Project.fileName)).1 = .ok project)
      (h : (given options completed project).IsUnchecked)

variable {options environment tree base root home}

theorem isUnforeseen_of_not_isInOrder {completed : Environment}
    (h : Resolved options environment tree base root home result completed)
    (hnot : ¬IsInOrder result) : IsUnforeseen options environment tree base root home := by
  cases h with
  | environment h =>
    obtain ⟨before, path, rest, completed, hpaths, hbefore, hshut⟩ :=
      Environment.afterFiles_eq_error h (Bool.not_eq_true _ ▸ hnot)
    exact .shutFile hpaths hbefore hshut
  | project hfiles h =>
    exact .obstacle hfiles (Project.load_eq_error_iff.1 h) (Bool.not_eq_true _ ▸ hnot)
  | combined hfiles hproject =>
    exact .unchecked hfiles hproject (isUnchecked_of_not_isInOrder (combined_combine _ _ _) hnot)

theorem not_isInOrder_of_isUnforeseen {completed : Environment}
    (h : Resolved options environment tree base root home result completed)
    (hunforeseen : IsUnforeseen options environment tree base root home) : ¬IsInOrder result := by
  cases hunforeseen with
  | @shutFile before rest path _ hpaths hbefore hshut =>
    obtain ⟨error, herror⟩ := Environment.exists_afterFiles_of_isShut hshut rest
    have hfailed : (environment.afterFiles tree base (Environment.filePaths [root] home)).1 =
        .error (.file error path.toText) := by
      rw [hpaths, Environment.afterFiles_append hbefore, herror]
    cases h with
    | environment h =>
      obtain rfl := Except.error.inj (hfailed.symm.trans (congrArg Prod.fst h))
      simp [IsInOrder, Escape.isBadValue]
    | project hfiles | combined hfiles => simp [hfiles] at hfailed
  | obstacle hfiles hobstacle hbad =>
    have herror := hobstacle.load_eq_error
    cases h with
    | environment h => simp [hfiles] at h
    | project _ h =>
      obtain rfl := Except.error.inj (herror.symm.trans h)
      simp [IsInOrder, hbad]
    | combined _ hproject => simp [herror] at hproject
  | unchecked hfiles hproject hunchecked =>
    cases h with
    | environment h => simp [hfiles] at h
    | project _ h => simp [hproject] at h
    | combined hfiles' hproject' =>
      obtain rfl := congrArg Prod.snd (hfiles.symm.trans hfiles')
      obtain rfl := Except.ok.inj (hproject.symm.trans hproject')
      exact not_isInOrder_of_isUnchecked (combined_combine _ _ _) hunchecked

theorem resolve_isInOrder_iff :
    IsInOrder (resolve options environment tree base root home).result ↔
      ¬IsUnforeseen options environment tree base root home := by
  have hresolved := resolved_resolve options environment tree base root home
  exact ⟨fun hinOrder hunforeseen => not_isInOrder_of_isUnforeseen hresolved hunforeseen hinOrder,
    fun h => not_not.1 (mt (isUnforeseen_of_not_isInOrder hresolved) h)⟩

end

end Settings

/-! ## Commands -/

namespace Command

variable (surroundings : Surroundings) (options : Settings.Options)

/-- Whatever a command does with its settings, it gets some with texts for the address and the
model, or it is refused because a value is bad. -/
def ResolvesInOrder : Prop :=
  (∃ settings run, settings.baseUrl.IsText ∧ settings.model.IsText ∧
    ∀ go, withSettings surroundings options go = go settings run) ∨
  ∃ message run, ∀ go,
    withSettings surroundings options go = (.refused (.badSettings message), run)

variable {surroundings options}

/-- What commands do with settings tells these from any others. -/
theorem eq_of_forall_go {s s' : Settings} {run run' : Run}
    (h : ∀ go : Settings → Run → Ending × Run, go s run = go s' run') : s = s' := by
  classical
  by_contra hother
  have hending := congrArg Prod.fst <|
    h fun settings run => (if settings = s' then .brokenOff else .exit exitDone, run)
  simp [hother] at hending

theorem resolvesInOrder_iff :
    ResolvesInOrder surroundings options ↔
      Settings.IsInOrder (Settings.resolve options surroundings.environment surroundings.tree
        surroundings.base surroundings.root surroundings.home).result := by
  unfold ResolvesInOrder withSettings
  dsimp only
  generalize Settings.resolve options surroundings.environment surroundings.tree
    surroundings.base surroundings.root surroundings.home = resolution
  obtain ⟨e | s, environment, log⟩ := resolution
  · -- a command that breaks off at once tells the escape from settings
    dsimp only [Settings.IsInOrder]
    by_cases hbad : e.isBadValue = true
    · simp only [hbad, if_true, iff_true]
      exact .inr ⟨e.message, _, fun _ => rfl⟩
    · rw [if_neg hbad]
      refine iff_of_false ?_ hbad
      rintro (⟨s, run, -, -, h⟩ | ⟨message, run, h⟩)
      · simpa using congrArg Prod.fst (h fun _ run => (.brokenOff, run))
      · simpa using congrArg Prod.fst (h fun _ run => (.brokenOff, run))
  · dsimp only [Settings.IsInOrder]
    constructor
    · rintro (⟨s', run, hbase, hmodel, h⟩ | ⟨message, run, h⟩)
      · obtain rfl := eq_of_forall_go h
        exact ⟨hbase, hmodel⟩
      · simpa using congrArg Prod.fst (h fun _ run => (.brokenOff, run))
    · rintro ⟨hbase, hmodel⟩
      exact .inl ⟨s, _, hbase, hmodel, fun _ => rfl⟩

/-- A project file gives what it should just when nothing stands against it, and the settings of a
command are resolved as they should just when nothing comes up that nobody foresees. -/
theorem resolution_asPromised_iff (surroundings : Surroundings) (options : Settings.Options)
    (path : Path) :
    (Project.AsPromised surroundings.tree surroundings.base path
        (Project.load surroundings.tree surroundings.base path).1 ↔
      ∀ e, ¬Project.Obstacle surroundings.tree surroundings.base path e) ∧
    (ResolvesInOrder surroundings options ↔
      ¬Settings.IsUnforeseen options surroundings.environment surroundings.tree surroundings.base
        surroundings.root surroundings.home) := by
  refine ⟨Project.load_asPromised_iff, ?_⟩
  rw [resolvesInOrder_iff, Settings.resolve_isInOrder_iff]

/-! ## A list in the place of the tools -/

def toolList : Surroundings where
  tree := ⟨[([Project.fileName], .file (.bytes (Utf8.bytesOf "tool = []")))]⟩
  base := []
  root := ⟨.relative, []⟩
  home := ⟨.absolute, []⟩
  environment := []
  width := 80
  replies := []

theorem toolList_obstacle :
    Project.Obstacle toolList.tree toolList.base (toolList.root.child Project.fileName)
      .missingMember := by
  have hlookup : toolList.tree.lookup toolList.base (toolList.root.child Project.fileName) =
      .ok ([Project.fileName], .file (.bytes (Utf8.bytesOf "tool = []"))) :=
    FileTree.IsStraight.lookup (by decide) rfl (by simp)
  have hread : toolList.tree.read toolList.base (toolList.root.child Project.fileName) =
      .ok (Utf8.bytesOf "tool = []") := by
    rw [FileTree.read, hlookup]
  have htext : Utf8.decode (Utf8.bytesOf "tool = []") = .ok "tool = []" := by cbv
  have hdecode : Toml.decode "tool = []" = .ok [("tool", .list [])] := by cbv
  exact .noTable ⟨_, _, hread, htext, hdecode⟩ rfl rfl

/-- Then the reading of the project file ends in an error that is no bad value. -/
theorem resolution_escapes_toolList :
    ¬Project.AsPromised toolList.tree toolList.base (toolList.root.child Project.fileName)
        (Project.load toolList.tree toolList.base
          (toolList.root.child Project.fileName)).1 ∧
      ¬ResolvesInOrder toolList ⟨none, none, none⟩ := by
  have hfiles : toolList.environment.afterFiles toolList.tree toolList.base
      (Environment.filePaths [toolList.root] toolList.home) = (.ok (), []) := by
    have hproject : toolList.tree.pathExists [] (toolList.root.child ".env") = .ok false :=
      FileTree.IsStraight.pathExists (l := [".env"]) (by decide) rfl
    have huser : toolList.tree.pathExists [] (toolList.home.child ".oneiromancer.env") =
        .ok false :=
      FileTree.IsStraight.pathExists (l := [".oneiromancer.env"]) (by decide) rfl
    refine Environment.afterFiles_of_missing fun path hpath => ?_
    obtain rfl | rfl : path = toolList.root.child ".env" ∨
        path = toolList.home.child ".oneiromancer.env" := by
      simpa [Environment.filePaths] using hpath
    · exact hproject
    · exact huser
  constructor
  · rw [Project.load_asPromised_iff]
    exact fun h => h _ toolList_obstacle
  · rw [resolvesInOrder_iff, Settings.resolve_isInOrder_iff]
    exact not_not.2 (.obstacle hfiles toolList_obstacle rfl)

end Command

end Nomenclator
