import Nomenclator.Proofs.Files.Tree
import Nomenclator.Proofs.Settings.Combination
import Nomenclator.Proofs.Text.Utf8

/-!
# Which source counts

Variables that are set count more than the file of the project, and that counts more than the file
of the user. With the environment that comes out the address and the model are chosen, and whoever
resolves again in that environment finds the same settings and changes nothing.
-/

namespace Nomenclator.Settings

open Environment (IsCompletedFrom IsCompletedBy StaysOn)
open Utf8 (bytesOf)

section

variable {options : Options} {environment completed : Environment} {tree : FileTree}
  {base : Location} {root home : Path} {s : Settings}

theorem isCompletedFrom_both
    (h : IsCompletedBy tree base environment (Environment.filePaths [root] home) completed) :
    ∃ between, IsCompletedFrom tree base environment (root.child ".env") between ∧
      IsCompletedFrom tree base between (home.child ".oneiromancer.env") completed := by
  cases h with
  | cons hproject hrest =>
    cases hrest with
    | cons huser hnone =>
      cases hnone with
      | nil => exact ⟨_, hproject, huser⟩

theorem chosen_of_combine {project : Entries Value}
    (h : (combine options completed project).1 = .ok s) :
    Chosen options.baseUrl (completed.get? Environment.baseUrlVariable) (project.get? "base_url")
        defaultBaseUrl s.baseUrl ∧
      Chosen options.model (completed.get? Environment.modelVariable) (project.get? "model")
        defaultModel s.model := by
  obtain ⟨x, y, z, -, hmade⟩ := combine_eq_ok h
  obtain ⟨hbase, hmodel, -⟩ := make_eq_ok hmade
  rw [hbase, hmodel]
  exact ⟨chosen_choose _ _ _ _, chosen_choose _ _ _ _⟩

theorem resolve_of_completed (options : Options) {project : Entries Value}
    (hfiles : completed.afterFiles tree base (Environment.filePaths [root] home) =
      (.ok (), completed))
    (hproject : (Project.load tree base (root.child Project.fileName)).1 = .ok project) :
    (resolve options completed tree base root home).result = (combine options completed project).1 ∧
      (resolve options completed tree base root home).environment = completed := by
  have hresolved := resolved_resolve options completed tree base root home
  generalize (resolve options completed tree base root home).result = result at hresolved ⊢
  generalize (resolve options completed tree base root home).environment = final at hresolved ⊢
  cases hresolved with
  | environment h => simp [hfiles] at h
  | project _ h => simp [hproject] at h
  | combined h h' =>
    obtain rfl : completed = final := by simpa [hfiles] using h
    obtain rfl : project = _ := by simpa [hproject] using h'
    exact ⟨rfl, rfl⟩

/-- Settings are resolved by precedence. A variable that is set stays as it is, and any other has
the value of the first file that binds it to one. The address and the model are those of the option,
else of the variable, if they are not empty, else of the project file, else the defaults. All of it
can be repeated: the same settings come out, and no variable changes. -/
theorem resolve_precedence
    (hon : StaysOn tree base environment (Environment.filePaths [root] home))
    (h : (resolve options environment tree base root home).result = .ok s) :
    ∃ between completed project,
      (resolve options environment tree base root home).environment = completed ∧
      IsCompletedFrom tree base environment (root.child ".env") between ∧
      IsCompletedFrom tree base between (home.child ".oneiromancer.env") completed ∧
      (Project.load tree base (root.child Project.fileName)).1 = .ok project ∧
      Chosen options.baseUrl (completed.get? Environment.baseUrlVariable)
        (project.get? "base_url") defaultBaseUrl s.baseUrl ∧
      Chosen options.model (completed.get? Environment.modelVariable)
        (project.get? "model") defaultModel s.model ∧
      (resolve options completed tree base root home).result = .ok s ∧
      (resolve options completed tree base root home).environment = completed := by
  obtain ⟨completed, project, hcompleted, hfiles, hproject, hcombine⟩ := resolve_eq_ok h
  obtain ⟨between, hfirst, hsecond⟩ :=
    isCompletedFrom_both (Environment.isCompletedBy_of_afterFiles hon hfiles)
  obtain ⟨hbase, hmodel⟩ := chosen_of_combine hcombine
  obtain ⟨hresult, hsame⟩ :=
    resolve_of_completed options (Environment.afterFiles_again hon hfiles) hproject
  exact ⟨between, completed, project, hcompleted, hfirst, hsecond, hproject, hbase, hmodel,
    hresult.trans hcombine, hsame⟩

end

/-! ## A project with all files -/

/-- The model is bound in both environment files, the address in that of the user only. -/
def threeFiles : FileTree :=
  ⟨[([".env"], .file (.bytes (bytesOf "OLLAMA_MODEL=a"))),
    ([".oneiromancer.env"], .file (.bytes (bytesOf "OLLAMA_MODEL=b\nOLLAMA_BASEURL=u"))),
    ([Project.fileName], .file (.bytes (bytesOf "[tool.oneiromancer]\nmodel = 'c'")))]⟩

/-- The project is where the run starts. -/
def atStart : Path := ⟨.relative, []⟩

def atTop : Path := ⟨.absolute, []⟩

/-- The settings without any options. -/
def threeFilesSettings (environment : Environment) : Resolution :=
  resolve ⟨none, none, none⟩ environment threeFiles [] atStart atTop

theorem threeFiles_lookups :
    threeFiles.lookup [] (atStart.child ".env") =
        .ok ([".env"], .file (.bytes (bytesOf "OLLAMA_MODEL=a"))) ∧
      threeFiles.lookup [] (atTop.child ".oneiromancer.env") =
        .ok ([".oneiromancer.env"], .file (.bytes (bytesOf "OLLAMA_MODEL=b\nOLLAMA_BASEURL=u"))) ∧
      threeFiles.lookup [] (atStart.child Project.fileName) =
        .ok ([Project.fileName], .file (.bytes (bytesOf "[tool.oneiromancer]\nmodel = 'c'"))) :=
  ⟨FileTree.IsStraight.lookup (by decide) rfl (by simp),
    FileTree.IsStraight.lookup (by decide) rfl (by simp),
    FileTree.IsStraight.lookup (by decide) rfl (by simp)⟩

theorem threeFiles_staysOn :
    StaysOn threeFiles [] [] (Environment.filePaths [atStart] atTop) where
  unset := rfl
  unbound := by
    obtain ⟨hproject, huser, -⟩ := threeFiles_lookups
    have hproject' : Environment.statementsAt threeFiles [] (atStart.child ".env") =
        [.bind "OLLAMA_MODEL" (some "a")] := by
      simp only [Environment.statementsAt, FileTree.read, hproject]
      decide +kernel
    have huser' : Environment.statementsAt threeFiles [] (atTop.child ".oneiromancer.env") =
        [.bind "OLLAMA_MODEL" (some "b"), .bind "OLLAMA_BASEURL" (some "u")] := by
      simp only [Environment.statementsAt, FileTree.read, huser]
      decide +kernel
    have hnames : (Environment.disablingVariable : Text) ≠ "OLLAMA_MODEL" ∧
        (Environment.disablingVariable : Text) ≠ "OLLAMA_BASEURL" := by decide
    intro path hpath value
    obtain rfl | rfl : path = atStart.child ".env" ∨ path = atTop.child ".oneiromancer.env" := by
      simpa [Environment.filePaths] using hpath
    · simp [hproject', hnames]
    · simp [huser', hnames]

theorem threeFiles_settings :
    ∃ s, (threeFilesSettings []).result = .ok s ∧
      s.baseUrl.asText? = some "u" ∧ s.model.asText? = some "a" := by
  obtain ⟨hproject, huser, hsection⟩ := threeFiles_lookups
  have htexts : (threeFilesSettings []).result.toOption.map
      (fun s => (s.baseUrl.asText?, s.model.asText?)) =
        some (some (Text.ofString "u"), some (Text.ofString "a")) := by
    simp only [threeFilesSettings, resolve, Environment.filePaths, List.map_cons, List.map_nil,
      List.cons_append, List.nil_append, Environment.load, Environment.completeFromFile,
      FileTree.pathExists, FileTree.read, Project.load, hproject, huser, hsection,
      FileTree.askWhether]
    decide +kernel
  cases hresult : (threeFilesSettings []).result with
  | ok s =>
    rw [hresult] at htexts
    simpa [Except.toOption] using htexts
  | error e => simp [hresult, Except.toOption] at htexts

theorem resolve_precedence_threeFiles :
    StaysOn threeFiles [] [] (Environment.filePaths [atStart] atTop) ∧
      ∃ s between completed project,
        (threeFilesSettings []).result = .ok s ∧
        s.baseUrl.asText? = some "u" ∧ s.model.asText? = some "a" ∧
        (threeFilesSettings []).environment = completed ∧
        IsCompletedFrom threeFiles [] [] (atStart.child ".env") between ∧
        IsCompletedFrom threeFiles [] between (atTop.child ".oneiromancer.env") completed ∧
        (Project.load threeFiles [] (atStart.child Project.fileName)).1 = .ok project ∧
        (threeFilesSettings completed).result = .ok s ∧
        (threeFilesSettings completed).environment = completed := by
  obtain ⟨s, hs, hbase, hmodel⟩ := threeFiles_settings
  obtain ⟨between, completed, project, hcompleted, hfirst, hsecond, hproject, -, -, hagain,
    hsame⟩ := resolve_precedence threeFiles_staysOn hs
  exact ⟨threeFiles_staysOn, s, between, completed, project, hs, hbase, hmodel, hcompleted, hfirst,
    hsecond, hproject, hagain, hsame⟩

end Nomenclator.Settings
