import Nomenclator.Proofs.Files.Questions
import Nomenclator.Proofs.Value.Entries
import Nomenclator.Settings.Environment

/-!
# Completing the environment

A file binds names to values. A variable that is set keeps its value; any other gets the value that
the first of the files binds it to. Then every variable with a value in a file is set, and so the
same files change nothing any more.
-/

namespace Nomenclator

/-! ## What a file binds -/

namespace EnvFile

/-- What one statement adds to the bindings before it. -/
def bindNext (environment : Entries Text) (bound : Entries (Option Text)) (statement : Statement) :
    Entries (Option Text) :=
  match statement with
  | .bind name value =>
    let lookup (name : Text) : Option (Option Text) :=
      (environment.get? name).map some <|> bound.get? name
    bound.put name (value.map fun v => (atoms v).flatMap (Atom.resolve lookup))
  | _ => bound

theorem resolve_eq_foldl (environment : Entries Text) (statements : List Statement) :
    resolve environment statements = statements.foldl (bindNext environment) [] := rfl

theorem nodup_keys_foldl (environment : Entries Text) (statements : List Statement)
    {bound : Entries (Option Text)} (h : bound.keys.Nodup) :
    (statements.foldl (bindNext environment) bound).keys.Nodup := by
  induction statements generalizing bound with
  | nil => exact h
  | cons statement rest ih =>
    refine ih ?_
    cases statement with
    | bind name value => exact Entries.nodup_keys_put h name _
    | _ => exact h

theorem get?_foldl_eq_none (environment : Entries Text) {statements : List Statement} {name : Text}
    {bound : Entries (Option Text)} (hbound : bound.get? name = none)
    (h : ∀ value, .bind name value ∉ statements) :
    (statements.foldl (bindNext environment) bound).get? name = none := by
  induction statements generalizing bound with
  | nil => exact hbound
  | cons statement rest ih =>
    refine ih ?_ fun value hmem => h value (List.mem_cons_of_mem _ hmem)
    cases statement with
    | bind other value =>
      have hother : other ≠ name := by
        rintro rfl
        exact h value List.mem_cons_self
      rw [bindNext, Entries.get?_put, if_neg hother]
      exact hbound
    | _ => exact hbound

/-- Which names have a value does not depend on what the values are. -/
theorem isSome_get?_foldl (environment environment' : Entries Text) (statements : List Statement)
    {bound bound' : Entries (Option Text)}
    (h : ∀ name, (bound.get? name).join.isSome = (bound'.get? name).join.isSome) (name : Text) :
    ((statements.foldl (bindNext environment) bound).get? name).join.isSome =
      ((statements.foldl (bindNext environment') bound').get? name).join.isSome := by
  induction statements generalizing bound bound' with
  | nil => exact h name
  | cons statement rest ih =>
    refine ih fun other => ?_
    cases statement with
    | bind bindName value =>
      rw [bindNext, bindNext, Entries.get?_put, Entries.get?_put]
      split
      · rw [Option.join_some, Option.join_some, Option.isSome_map, Option.isSome_map]
      · exact h other
    | _ => exact h other

end EnvFile

namespace Environment

/-- The statements of the file at the path. -/
def statementsAt (tree : FileTree) (base : Location) (path : Path) : List EnvFile.Statement :=
  match tree.read base path with
  | .error _ => []
  | .ok bytes =>
    match Utf8.decode bytes with
    | .error _ => []
    | .ok text => EnvFile.statements text.unifyLineEnds

/-- What the file at the path binds, with the references in it resolved. -/
def boundAt (tree : FileTree) (base : Location) (environment : Environment) (path : Path) :
    Entries (Option Text) :=
  EnvFile.resolve environment (statementsAt tree base path)

/-- What the file at the path binds a name to, if it binds it to a value. -/
def valueAt (tree : FileTree) (base : Location) (environment : Environment) (path : Path)
    (name : Text) : Option Text :=
  ((boundAt tree base environment path).get? name).join

theorem nodup_keys_boundAt (tree : FileTree) (base : Location) (environment : Environment)
    (path : Path) : (boundAt tree base environment path).keys.Nodup :=
  EnvFile.nodup_keys_foldl environment _ List.nodup_nil

theorem isSome_valueAt (tree : FileTree) (base : Location) (environment environment' : Environment)
    (path : Path) (name : Text) :
    (valueAt tree base environment path name).isSome =
      (valueAt tree base environment' path name).isSome :=
  EnvFile.isSome_get?_foldl environment environment' _ (fun _ => rfl) name

/-! ## Setting what is not set -/

variable {environment completed : Environment} {bound : Entries (Option Text)}

theorem complete_cons_some (name value : Text) (rest : Entries (Option Text)) :
    environment.complete ((name, some value) :: rest) =
      if environment.hasKey name then environment.complete rest
      else
        match refusal? name value with
        | some message => (.error (.badValue message), environment)
        | none => complete (environment.put name value) rest := rfl

theorem get?_complete (hnodup : bound.keys.Nodup)
    (h : environment.complete bound = (.ok (), completed)) (name : Text) :
    completed.get? name = (environment.get? name).or (bound.get? name).join := by
  induction bound generalizing environment with
  | nil =>
    obtain rfl : environment = completed := congrArg Prod.snd h
    exact (Option.or_none).symm
  | cons entry rest ih =>
    obtain ⟨key, value?⟩ := entry
    obtain ⟨hfresh, hrest⟩ := List.nodup_cons.1 hnodup
    have hkey : Entries.get? key rest = none := Entries.get?_eq_none_iff.2 hfresh
    rw [Entries.get?_cons]
    -- an entry counts if it has a value and nothing has set its variable before
    cases value? with
    | none =>
      rw [ih hrest h]
      split
      · next hsame =>
        obtain rfl : key = name := hsame
        rw [hkey]
        rfl
      · rfl
    | some value =>
      rw [complete_cons_some] at h
      split at h
      · next hset =>
        rw [ih hrest h]
        split
        · next hsame =>
          obtain rfl : key = name := hsame
          rw [Entries.hasKey_eq_isSome_get?] at hset
          obtain ⟨old, hold⟩ := Option.isSome_iff_exists.1 hset
          rw [hold]
          rfl
        · rfl
      · next hset =>
        split at h
        · simp at h
        · rw [ih hrest h, Entries.get?_put]
          split
          · next hsame =>
            obtain rfl : key = name := hsame
            rw [Entries.hasKey_eq_isSome_get?, Bool.not_eq_true, Option.isSome_eq_false_iff,
              Option.isNone_iff_eq_none] at hset
            rw [hset]
            rfl
          · rfl

theorem complete_eq_error {e : Escape}
    (h : environment.complete bound = (.error e, completed)) : e.isBadValue = true := by
  induction bound generalizing environment with
  | nil => simp [complete] at h
  | cons entry rest ih =>
    obtain ⟨key, value?⟩ := entry
    cases value? with
    | none => exact ih h
    | some value =>
      rw [complete_cons_some] at h
      split at h
      · exact ih h
      · split at h
        · simp only [Prod.mk.injEq, Except.error.injEq] at h
          exact h.1 ▸ rfl
        · exact ih h

theorem complete_of_set
    (h : ∀ name, (bound.get? name).join.isSome = true → (environment.get? name).isSome = true)
    (hnodup : bound.keys.Nodup) : environment.complete bound = (.ok (), environment) := by
  induction bound with
  | nil => rfl
  | cons entry rest ih =>
    obtain ⟨key, value?⟩ := entry
    obtain ⟨hfresh, hrest⟩ := List.nodup_cons.1 hnodup
    have hall : environment.complete rest = (.ok (), environment) := by
      refine ih (fun name hsome => h name ?_) hrest
      have hother : key ≠ name := by
        rintro rfl
        rw [Entries.get?_eq_none_iff.2 hfresh] at hsome
        simp at hsome
      rw [Entries.get?_cons, if_neg hother]
      exact hsome
    cases value? with
    | none => exact hall
    | some value =>
      have hset : environment.hasKey key = true := by
        rw [Entries.hasKey_eq_isSome_get?]
        refine h key ?_
        rw [Entries.get?_cons, if_pos rfl]
        rfl
      rw [complete_cons_some, if_pos hset, hall]

/-! ## One file -/

section File

variable {tree : FileTree} {base : Location} {path : Path}

/-- The outcome of completing the environment from files, without the log. -/
def afterFiles (tree : FileTree) (base : Location) (environment : Environment) (paths : List Path) :
    Except Escape Unit × Environment :=
  ((environment.load tree base paths).1, (environment.load tree base paths).2.1)

/-- If the path leads to a file, it can be opened and its bytes are a text. -/
def Decodes (tree : FileTree) (base : Location) (path : Path) : Prop :=
  ∀ location content, tree.lookup base path = .ok (location, .file content) →
    ∃ bytes text, content = .bytes bytes ∧ Utf8.decode bytes = .ok text

/-- What keeps the file at the path from being looked at: its name or its path is too long, or it is
locked while environment files are on. -/
inductive IsShut (tree : FileTree) (base : Location) (environment : Environment) (path : Path) :
    Prop
  | longName (h : tree.IsTooLong base path)
  | locked (hon : environment.filesDisabled = false) (h : tree.IsLocked base path)

theorem boundAt_of_read {error : FileError} (h : tree.read base path = .error error) :
    boundAt tree base environment path = [] := by
  rw [boundAt, statementsAt, h]
  rfl

theorem afterFiles_cons (path : Path) (rest : List Path) :
    afterFiles tree base environment (path :: rest) =
      match afterFiles tree base environment [path] with
      | (.ok (), next) => afterFiles tree base next rest
      | (.error e, stopped) => (.error e, stopped) := by
  unfold afterFiles
  rw [load, load]
  cases tree.pathExists base path with
  | error error => rfl
  | ok found =>
    cases found with
    | false => rfl
    | true =>
      rcases environment.completeFromFile tree base path with ⟨e | ⟨⟩, next, log⟩
      · rfl
      · rfl

theorem afterFiles_of_isTooLong (h : tree.IsTooLong base path) (rest : List Path) :
    afterFiles tree base environment (path :: rest) =
      (.error (.file .nameTooLong path.toText), environment) := by
  unfold afterFiles
  rw [load, FileTree.pathExists_eq_error_iff.2 ⟨rfl, h⟩]

theorem completeFromFile_of_decodes (hon : environment.filesDisabled = false)
    (h : Decodes tree base path) :
    ∃ log, environment.completeFromFile tree base path =
      ((environment.complete (boundAt tree base environment path)).1,
        (environment.complete (boundAt tree base environment path)).2, log) := by
  unfold completeFromFile
  rw [if_neg (Bool.not_eq_true _ ▸ hon)]
  cases hlookup : tree.lookup base path with
  | error error =>
    have hread : tree.read base path = .error error := by rw [FileTree.read, hlookup]
    exact ⟨[], by rw [boundAt_of_read hread]; rfl⟩
  | ok found =>
    obtain ⟨location, node⟩ := found
    cases node with
    | file content =>
      obtain ⟨bytes, text, rfl, htext⟩ := h location content hlookup
      have hread : tree.read base path = .ok bytes := by rw [FileTree.read, hlookup]
      simp only [boundAt, statementsAt, hread, htext]
      exact ⟨_, rfl⟩
    | directory | link target =>
      have hread : tree.read base path = .error .isDirectory := by rw [FileTree.read, hlookup]
      exact ⟨[], by rw [boundAt_of_read hread]; rfl⟩

theorem afterFiles_single (hon : environment.filesDisabled = false)
    (hshort : ¬tree.IsTooLong base path) (hdecodes : Decodes tree base path) :
    afterFiles tree base environment [path] =
      environment.complete (boundAt tree base environment path) := by
  unfold afterFiles
  rw [load]
  cases hexists : tree.pathExists base path with
  | error error => exact absurd (FileTree.pathExists_eq_error_iff.1 hexists).2 hshort
  | ok found =>
    cases found with
    | false =>
      obtain ⟨error, hread⟩ := FileTree.read_of_not_pathExists hexists
      rw [boundAt_of_read hread]
      rfl
    | true =>
      obtain ⟨log, hcomplete⟩ := completeFromFile_of_decodes hon hdecodes
      rw [hcomplete]
      rcases environment.complete (boundAt tree base environment path) with ⟨e | ⟨⟩, next⟩
      · rfl
      · rfl

theorem completeFromFile_eq_error {e : Escape}
    (h : (environment.completeFromFile tree base path).1 = .error e) :
    e.isBadValue = true ∨ environment.filesDisabled = false ∧ tree.IsLocked base path := by
  unfold completeFromFile at h
  split at h
  · simp at h
  · next hon =>
    split at h
    · next location error hlookup =>
      exact .inr ⟨Bool.not_eq_true _ ▸ hon, location, error, hlookup⟩
    · split at h
      · obtain rfl : _ = e := Except.error.inj h
        exact .inl rfl
      · exact .inl (complete_eq_error (Prod.ext h rfl))
    · simp at h

theorem exists_afterFiles_of_isLocked (hon : environment.filesDisabled = false)
    (h : tree.IsLocked base path) (rest : List Path) :
    ∃ error, afterFiles tree base environment (path :: rest) =
      (.error (.file error path.toText), environment) := by
  obtain ⟨location, error, hlookup⟩ := h
  have hexists : tree.pathExists base path = .ok true := by
    rw [FileTree.pathExists, hlookup]
    rfl
  refine ⟨error, ?_⟩
  unfold afterFiles
  rw [load, hexists, completeFromFile, if_neg (Bool.not_eq_true _ ▸ hon), hlookup]

theorem exists_afterFiles_of_isShut (h : IsShut tree base environment path) (rest : List Path) :
    ∃ error, afterFiles tree base environment (path :: rest) =
      (.error (.file error path.toText), environment) := by
  cases h with
  | longName h => exact ⟨_, afterFiles_of_isTooLong h rest⟩
  | locked hon h => exact exists_afterFiles_of_isLocked hon h rest

theorem afterFiles_single_eq_error {e : Escape}
    (h : (afterFiles tree base environment [path]).1 = .error e) :
    e.isBadValue = true ∨ IsShut tree base environment path := by
  unfold afterFiles at h
  rw [load] at h
  cases hexists : tree.pathExists base path with
  | error error => exact .inr (.longName (FileTree.pathExists_eq_error_iff.1 hexists).2)
  | ok found =>
    rw [hexists] at h
    cases found with
    | false => simp [load] at h
    | true =>
      rcases hfile : environment.completeFromFile tree base path with ⟨e' | ⟨⟩, next, log⟩
      · rw [hfile] at h
        obtain rfl : e' = e := Except.error.inj h
        rcases completeFromFile_eq_error (congrArg Prod.fst hfile) with hbad | ⟨hon, hlocked⟩
        · exact .inl hbad
        · exact .inr (.locked hon hlocked)
      · rw [hfile] at h
        simp [load] at h

theorem short_and_decodes_of_afterFiles (hon : environment.filesDisabled = false)
    (h : (afterFiles tree base environment [path]).1 = .ok ()) :
    ¬tree.IsTooLong base path ∧ Decodes tree base path := by
  refine ⟨fun hlong => ?_, fun location content hlookup => ?_⟩
  · rw [afterFiles_of_isTooLong hlong] at h
    simp at h
  · cases content with
    | locked error =>
      obtain ⟨error, herror⟩ := exists_afterFiles_of_isLocked hon ⟨location, error, hlookup⟩ []
      rw [herror] at h
      simp at h
    | bytes bytes =>
      cases hdecode : Utf8.decode bytes with
      | ok text => exact ⟨bytes, text, rfl, hdecode⟩
      | error problem =>
        have hexists : tree.pathExists base path = .ok true := by
          rw [FileTree.pathExists, hlookup]
          rfl
        rw [afterFiles, load, hexists] at h
        simp [completeFromFile, hon, hlookup, hdecode] at h

end File

/-! ## One file after the other -/

section Files

variable {tree : FileTree} {base : Location} {paths : List Path}

/-- What is set stays as it is. What is not gets the value that the file binds it to, if it does. -/
def IsCompletedFrom (tree : FileTree) (base : Location) (environment : Environment) (path : Path)
    (completed : Environment) : Prop :=
  ∀ name, completed.get? name =
    (environment.get? name).or (valueAt tree base environment path name)

/-- Each file completes what the files before it leave. -/
inductive IsCompletedBy (tree : FileTree) (base : Location) :
    Environment → List Path → Environment → Prop
  | nil (environment : Environment) : IsCompletedBy tree base environment [] environment
  | cons {environment next completed : Environment} {path : Path} {rest : List Path}
      (hfile : IsCompletedFrom tree base environment path next)
      (hrest : IsCompletedBy tree base next rest completed) :
    IsCompletedBy tree base environment (path :: rest) completed

/-- Neither the environment nor a file sets the variable that turns environment files off. -/
structure StaysOn (tree : FileTree) (base : Location) (environment : Environment)
    (paths : List Path) : Prop where
  unset : environment.get? disablingVariable = none
  unbound : ∀ path ∈ paths, ∀ value, .bind disablingVariable value ∉ statementsAt tree base path

theorem filesDisabled_of_unset (h : environment.get? disablingVariable = none) :
    environment.filesDisabled = false := by
  rw [filesDisabled, h]

theorem valueAt_disablingVariable {path : Path}
    (h : ∀ value, .bind disablingVariable value ∉ statementsAt tree base path)
    (environment : Environment) : valueAt tree base environment path disablingVariable = none := by
  rw [valueAt, boundAt, EnvFile.resolve_eq_foldl, EnvFile.get?_foldl_eq_none environment rfl h]
  rfl

theorem isCompletedFrom_of_afterFiles {path : Path} (hon : environment.filesDisabled = false)
    (h : afterFiles tree base environment [path] = (.ok (), completed)) :
    IsCompletedFrom tree base environment path completed := by
  obtain ⟨hshort, hdecodes⟩ := short_and_decodes_of_afterFiles hon (congrArg Prod.fst h)
  rw [afterFiles_single hon hshort hdecodes] at h
  exact get?_complete (nodup_keys_boundAt tree base environment path) h

theorem StaysOn.next {path : Path} {next : Environment}
    (h : StaysOn tree base environment (path :: paths))
    (hfile : IsCompletedFrom tree base environment path next) :
    StaysOn tree base next paths where
  unset := by
    rw [hfile disablingVariable, h.unset,
      valueAt_disablingVariable (h.unbound path List.mem_cons_self)]
    rfl
  unbound other hmem := h.unbound other (List.mem_cons_of_mem path hmem)

theorem afterFiles_cons_eq_ok {path : Path}
    (h : afterFiles tree base environment (path :: paths) = (.ok (), completed)) :
    ∃ next, afterFiles tree base environment [path] = (.ok (), next) ∧
      afterFiles tree base next paths = (.ok (), completed) := by
  rw [afterFiles_cons] at h
  split at h
  · next next hfile => exact ⟨next, hfile, h⟩
  · simp at h

theorem afterFiles_of_missing (h : ∀ path ∈ paths, tree.pathExists base path = .ok false) :
    afterFiles tree base environment paths = (.ok (), environment) := by
  induction paths with
  | nil => rfl
  | cons path rest ih =>
    obtain ⟨hpath, hrest⟩ := List.forall_mem_cons.1 h
    unfold afterFiles
    rw [load, hpath]
    exact ih hrest

theorem afterFiles_append {before : List Path}
    (h : afterFiles tree base environment before = (.ok (), completed)) (rest : List Path) :
    afterFiles tree base environment (before ++ rest) = afterFiles tree base completed rest := by
  induction before generalizing environment with
  | nil =>
    obtain rfl : environment = completed := congrArg Prod.snd h
    rfl
  | cons path before ih =>
    obtain ⟨next, hpath, hbefore⟩ := afterFiles_cons_eq_ok h
    rw [List.cons_append, afterFiles_cons, hpath]
    exact ih hbefore

/-- Only a file that cannot be looked at keeps files from completing an environment without a word
on a bad value. -/
theorem afterFiles_eq_error {e : Escape} {stopped : Environment}
    (h : afterFiles tree base environment paths = (.error e, stopped))
    (hbad : e.isBadValue = false) :
    ∃ before path rest completed, paths = before ++ path :: rest ∧
      afterFiles tree base environment before = (.ok (), completed) ∧
      IsShut tree base completed path := by
  induction paths generalizing environment with
  | nil => simp [afterFiles, load] at h
  | cons path rest ih =>
    rw [afterFiles_cons] at h
    split at h
    · next next hpath =>
      obtain ⟨before, shut, others, completed, rfl, hbefore, hshut⟩ := ih h
      refine ⟨path :: before, shut, others, completed, rfl, ?_, hshut⟩
      rw [afterFiles_cons, hpath]
      exact hbefore
    · next e' stopped' hpath =>
      obtain rfl : e' = e := Except.error.inj (congrArg Prod.fst h)
      rcases afterFiles_single_eq_error (congrArg Prod.fst hpath) with hbad' | hshut
      · simp [hbad] at hbad'
      · exact ⟨[], path, rest, environment, rfl, rfl, hshut⟩

theorem isCompletedBy_of_afterFiles (hon : StaysOn tree base environment paths)
    (h : afterFiles tree base environment paths = (.ok (), completed)) :
    IsCompletedBy tree base environment paths completed := by
  induction paths generalizing environment with
  | nil =>
    obtain rfl : environment = completed := congrArg Prod.snd h
    exact .nil environment
  | cons path rest ih =>
    obtain ⟨next, hpath, hrest⟩ := afterFiles_cons_eq_ok h
    have hfile := isCompletedFrom_of_afterFiles (filesDisabled_of_unset hon.unset) hpath
    exact .cons hfile (ih (hon.next hfile) hrest)

theorem IsCompletedFrom.isSome {path : Path} {name : Text}
    (h : IsCompletedFrom tree base environment path completed)
    (hsome : (environment.get? name).isSome = true ∨
      (valueAt tree base environment path name).isSome = true) :
    (completed.get? name).isSome = true := by
  rw [h name, Option.isSome_or, Bool.or_eq_true]
  exact hsome

theorem IsCompletedBy.isSome {name : Text} (h : IsCompletedBy tree base environment paths completed)
    (hsome : (environment.get? name).isSome = true) : (completed.get? name).isSome = true := by
  induction h with
  | nil => exact hsome
  | cons hfile _ ih => exact ih (hfile.isSome (.inl hsome))

/-- The same files change nothing in an environment where all is set that they have set. -/
theorem afterFiles_of_isCompletedBy {environment' : Environment}
    (hon : StaysOn tree base environment paths)
    (h : afterFiles tree base environment paths = (.ok (), completed))
    (hunset : environment'.get? disablingVariable = none)
    (hset : ∀ name, (completed.get? name).isSome = true → (environment'.get? name).isSome = true) :
    afterFiles tree base environment' paths = (.ok (), environment') := by
  induction paths generalizing environment with
  | nil => rfl
  | cons path rest ih =>
    obtain ⟨next, hpath, hrest⟩ := afterFiles_cons_eq_ok h
    have hon₁ := filesDisabled_of_unset hon.unset
    have hfile := isCompletedFrom_of_afterFiles hon₁ hpath
    have hnext := hon.next hfile
    obtain ⟨hshort, hdecodes⟩ := short_and_decodes_of_afterFiles hon₁ (congrArg Prod.fst hpath)
    have hsame : afterFiles tree base environment' [path] = (.ok (), environment') := by
      rw [afterFiles_single (filesDisabled_of_unset hunset) hshort hdecodes]
      refine complete_of_set (fun name hsome => hset name ?_)
        (nodup_keys_boundAt tree base environment' path)
      -- a name has a value here just when it had one the first time
      refine (isCompletedBy_of_afterFiles hnext hrest).isSome (hfile.isSome (.inr ?_))
      rw [isSome_valueAt tree base environment environment']
      exact hsome
    rw [afterFiles_cons, hsame]
    exact ih hnext hrest

/-- The files change nothing any more once they have completed an environment. -/
theorem afterFiles_again (hon : StaysOn tree base environment paths)
    (h : afterFiles tree base environment paths = (.ok (), completed)) :
    afterFiles tree base completed paths = (.ok (), completed) := by
  refine afterFiles_of_isCompletedBy hon h ?_ fun _ hsome => hsome
  have hcompleted := isCompletedBy_of_afterFiles hon h
  clear h
  induction hcompleted with
  | nil => exact hon.unset
  | cons hfile _ ih => exact ih (hon.next hfile)

end Files

end Environment

end Nomenclator
