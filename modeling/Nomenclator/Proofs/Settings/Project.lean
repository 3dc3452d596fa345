import Nomenclator.Proofs.Files.Questions
import Nomenclator.Settings.Project

/-!
# What the project file gives

The project file is to give its section, or nothing if it has none. It does unless its content
defeats the reading in one of five ways, and each of them ends the reading with its own error.
-/

namespace Nomenclator.Project

variable (tree : FileTree) (base : Location) (path : Path)

/-! ## Sections -/

/-- There is a file at the path, and it decodes to the document. -/
def HasDocument (document : Entries Value) : Prop :=
  ∃ bytes text, tree.read base path = .ok bytes ∧ Utf8.decode bytes = .ok text ∧
    Toml.decode text = .ok document

/-- The section is the table under the program's name in the table of all tools. -/
def IsSectionIn (document entries : Entries Value) : Prop :=
  ∃ tools, document.get? sectionPath.1 = some (.table tools) ∧
    Entries.get? sectionPath.2 tools = some (.table entries)

def HasSection (entries : Entries Value) : Prop :=
  ∃ document, HasDocument tree base path document ∧ IsSectionIn document entries

/-- What the file gives is its section, or nothing if it has none. -/
def AsPromised (result : Except Escape (Entries Value)) : Prop :=
  ∃ entries, result = .ok entries ∧
    (HasSection tree base path entries ∨
      entries = [] ∧ ∀ others, ¬HasSection tree base path others)

/-! ## What stands against it -/

/-- What ends the reading of the file, with the error that it ends in. -/
inductive Obstacle : Escape → Prop
  | longName (h : tree.IsTooLong base path) : Obstacle (.file .nameTooLong path.toText)
  | undecodable {bytes : Utf8.Bytes} {problem : Utf8.DecodeProblem}
      (hread : tree.read base path = .ok bytes) (h : Utf8.decode bytes = .error problem) :
    Obstacle (.undecodable problem)
  | longInteger {bytes : Utf8.Bytes} {text : Text} {digits : Nat}
      (hread : tree.read base path = .ok bytes) (htext : Utf8.decode bytes = .ok text)
      (h : Toml.decode text = .error (.integerTooLong digits)) :
    Obstacle (.integerTooLong digits)
  | deepNesting {bytes : Utf8.Bytes} {text : Text}
      (hread : tree.read base path = .ok bytes) (htext : Utf8.decode bytes = .ok text)
      (h : Toml.decode text = .error .tooDeep) :
    Obstacle .nestingTooDeep
  | noTable {document : Entries Value} {tools : Value}
      (hdocument : HasDocument tree base path document)
      (htools : document.get? sectionPath.1 = some tools) (h : tools.asTable? = none) :
    Obstacle .missingMember

variable {tree base path}

/-! ## Reading a document -/

theorem sectionOf_cases (path : Path) (document : Entries Value) :
    (∃ entries, (sectionOf path document).1 = .ok entries ∧
      (IsSectionIn document entries ∨ entries = [] ∧ ∀ others, ¬IsSectionIn document others)) ∨
    ∃ tools, document.get? sectionPath.1 = some tools ∧ tools.asTable? = none ∧
      (sectionOf path document).1 = .error .missingMember := by
  unfold sectionOf IsSectionIn
  split
  · next hnone => exact .inl ⟨[], rfl, .inr ⟨rfl, by simp [hnone]⟩⟩
  · next tools htools =>
    split
    · next hnone => exact .inl ⟨[], rfl, .inr ⟨rfl, by simp [htools, hnone]⟩⟩
    · next entries hentries => exact .inl ⟨entries, rfl, .inl ⟨tools, htools, hentries⟩⟩
    · next value hother hvalue =>
      refine .inl ⟨[], rfl, .inr ⟨rfl, ?_⟩⟩
      rintro others ⟨tools', htools', hothers⟩
      obtain rfl : tools = tools' := by simpa [htools] using htools'
      exact hother others (by simpa [hvalue] using hothers)
  · next tools hother htools =>
    refine .inr ⟨tools, htools, ?_, rfl⟩
    cases tools with
    | table entries => exact absurd rfl (hother entries)
    | _ => rfl

/-! ## Reading the file -/

theorem hasDocument_iff {bytes : Utf8.Bytes} {text : Text} {document : Entries Value}
    (hread : tree.read base path = .ok bytes) (htext : Utf8.decode bytes = .ok text) :
    HasDocument tree base path document ↔ Toml.decode text = .ok document := by
  refine ⟨?_, fun h => ⟨bytes, text, hread, htext, h⟩⟩
  rintro ⟨bytes', text', hread', htext', hdecode⟩
  obtain rfl : bytes = bytes' := by simpa [hread] using hread'
  obtain rfl : text = text' := by simpa [htext] using htext'
  exact hdecode

theorem asPromised_nil (h : ∀ document, ¬HasDocument tree base path document) :
    AsPromised tree base path (.ok []) :=
  ⟨[], rfl, .inr ⟨rfl, fun _ ⟨document, hdocument, _⟩ => h document hdocument⟩⟩

theorem not_hasDocument_of_read {error : FileError} (h : tree.read base path = .error error)
    (document : Entries Value) : ¬HasDocument tree base path document := by
  rintro ⟨bytes, text, hread, -⟩
  simp [h] at hread

theorem sectionIn_cases {bytes : Utf8.Bytes} (hread : tree.read base path = .ok bytes) :
    AsPromised tree base path (sectionIn path bytes).1 ∨
      ∃ e, Obstacle tree base path e ∧ (sectionIn path bytes).1 = .error e := by
  unfold sectionIn
  split
  · next problem hproblem => exact .inr ⟨_, .undecodable hread hproblem, rfl⟩
  · next text htext =>
    split
    · next document hdecode =>
      have hdocument := (hasDocument_iff hread htext).2 hdecode
      rcases sectionOf_cases path document with
        ⟨entries, hentries, hsection | ⟨rfl, hnone⟩⟩ | ⟨tools, htools, hother, herror⟩
      · exact .inl ⟨entries, hentries, .inl ⟨document, hdocument, hsection⟩⟩
      · refine .inl ⟨[], hentries, .inr ⟨rfl, ?_⟩⟩
        rintro others ⟨document', hdocument', hothers⟩
        rw [hasDocument_iff hread htext, hdecode, Except.ok.injEq] at hdocument'
        exact hnone others (hdocument' ▸ hothers)
      · exact .inr ⟨_, .noTable hdocument htools hother, herror⟩
    · next hstop =>
      refine .inl (asPromised_nil fun document hdocument => ?_)
      rw [hasDocument_iff hread htext, hstop] at hdocument
      simp at hdocument
    · next hstop => exact .inr ⟨_, .longInteger hread htext hstop, rfl⟩
    · next hstop => exact .inr ⟨_, .deepNesting hread htext hstop, rfl⟩

/-- A project file gives what it should, or there is an obstacle, and the reading ends in its
error. -/
theorem load_cases (tree : FileTree) (base : Location) (path : Path) :
    AsPromised tree base path (load tree base path).1 ∨
      ∃ e, Obstacle tree base path e ∧ (load tree base path).1 = .error e := by
  unfold load
  split
  · next hexists =>
    obtain ⟨rfl, hlong⟩ := FileTree.pathExists_eq_error_iff.1 hexists
    exact .inr ⟨_, .longName hlong, rfl⟩
  · next hexists =>
    obtain ⟨error, hread⟩ := FileTree.read_of_not_pathExists hexists
    exact .inl (asPromised_nil (not_hasDocument_of_read hread))
  · split
    · next hread => exact .inl (asPromised_nil (not_hasDocument_of_read hread))
    · next hread => exact sectionIn_cases hread

theorem load_of_read {bytes : Utf8.Bytes} (h : tree.read base path = .ok bytes) :
    load tree base path = sectionIn path bytes := by
  unfold load
  rw [FileTree.pathExists_of_read h, h]

theorem Obstacle.load_eq_error {e : Escape} (h : Obstacle tree base path e) :
    (load tree base path).1 = .error e := by
  cases h with
  | longName h =>
    unfold load
    rw [FileTree.pathExists_eq_error_iff.2 ⟨rfl, h⟩]
  | undecodable hread h => simp only [load_of_read hread, sectionIn, h]
  | longInteger hread htext h => simp only [load_of_read hread, sectionIn, htext, h]
  | deepNesting hread htext h => simp only [load_of_read hread, sectionIn, htext, h]
  | @noTable document tools hdocument htools h =>
    obtain ⟨bytes, text, hread, htext, hdecode⟩ := hdocument
    simp only [load_of_read hread, sectionIn, htext, hdecode, sectionOf, htools]
    cases tools with
    | table entries => simp [Value.asTable?] at h
    | _ => rfl

theorem load_eq_error_iff {e : Escape} :
    (load tree base path).1 = .error e ↔ Obstacle tree base path e := by
  refine ⟨fun h => ?_, Obstacle.load_eq_error⟩
  rcases load_cases tree base path with ⟨entries, hok, -⟩ | ⟨e', hobstacle, herror⟩
  · simp [h] at hok
  · obtain rfl : e = e' := by simpa [h] using herror
    exact hobstacle

theorem load_asPromised_iff :
    AsPromised tree base path (load tree base path).1 ↔ ∀ e, ¬Obstacle tree base path e := by
  refine ⟨?_, fun h => ?_⟩
  · rintro ⟨entries, hok, -⟩ e hobstacle
    simp [hobstacle.load_eq_error] at hok
  · rcases load_cases tree base path with hpromised | ⟨e, hobstacle, -⟩
    · exact hpromised
    · exact absurd hobstacle (h e)

end Nomenclator.Project
