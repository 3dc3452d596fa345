import Nomenclator.Proofs.Suggestion.Sorting
import Nomenclator.Proofs.Suggestion.Validation

/-!
# What a suggestion depends on

Of all that an answer holds, three things decide what is made of it: the value that counts for each
of its two fields, and what stands under `variables`. The renames that are read from there take the
place of whatever came under the names of the results, so nothing can be slipped in.
-/

namespace Nomenclator

namespace Renames

/-- Renames as a table from old to new names. -/
def table (renames : Entries Text) : Entries Value :=
  renames.map fun entry => (entry.1, .text entry.2)

/-- Entries that were set aside, each as a list of its two parts. -/
def rows (dropped : List (Text × Text)) : List Value :=
  dropped.map fun entry => .list [.text entry.1, .text entry.2]

theorem table_inj {renames renames' : Entries Text} :
    table renames = table renames' ↔ renames = renames' := by
  refine (List.map_injective_iff.2 ?_).eq_iff
  rintro ⟨old, new⟩ ⟨old', new'⟩ h
  simpa using h

theorem rows_inj {dropped dropped' : List (Text × Text)} :
    rows dropped = rows dropped' ↔ dropped = dropped' := by
  refine (List.map_injective_iff.2 ?_).eq_iff
  rintro ⟨key, value⟩ ⟨key', value'⟩ h
  simpa using h

end Renames

namespace Suggestion

variable {keys : List Text} {entries entries' : Entries Value} {key content : Text} {value : Value}
  {suggestion : Suggestion} {problem : Text × Fault} {problems : List (Text × Fault)}

/-! ## Fields -/

/-- What is wrong with the field under `keys`, and the key under which that is told. -/
inductive FaultAt (keys : List Text) (entries : Entries Value) : Text × Fault → Prop
  | missing {first : Text} (hfirst : keys.head? = some first)
      (h : ∀ key ∈ keys, entries.get? key = none) : FaultAt keys entries (first, .missing)
  | notText {key : Text} {value : Value} (h : Chosen keys entries key value)
      (hno : ∀ t, value ≠ .text t) : FaultAt keys entries (key, .notText)
  | blank {key t : Text} (h : Chosen keys entries key (.text t)) (hblank : t.Blank) :
    FaultAt keys entries (key, .blank)

theorem FaultAt.field_eq (h : FaultAt keys entries problem) :
    field keys entries = .error problem := by
  unfold field
  cases h with
  | missing hfirst h => rw [choose?_eq_none_iff.2 h, List.headD_eq_head?_getD, hfirst]; rfl
  | @notText key value hchosen hno =>
    rw [choose?_eq_some_iff.2 hchosen]
    cases value with
    | text t => exact absurd rfl (hno t)
    | _ => rfl
  | blank hchosen hblank =>
    rw [choose?_eq_some_iff.2 hchosen]
    simp [Text.strip_eq_nil_iff.2 hblank]

theorem isField_or_faultAt (hkeys : keys ≠ []) (entries : Entries Value) :
    (∃ content, IsField keys entries content) ∨ ∃ problem, FaultAt keys entries problem := by
  rcases isField_or_isFaulty keys entries with h | h
  · exact .inl h
  · cases h with
    | missing h =>
      obtain ⟨first, rest, rfl⟩ := List.exists_cons_of_ne_nil hkeys
      exact .inr ⟨_, .missing rfl h⟩
    | notText hchosen hno => exact .inr ⟨_, .notText hchosen hno⟩
    | blank hchosen hblank => exact .inr ⟨_, .blank hchosen hblank⟩

theorem field_eq_ok_iff (hkeys : keys ≠ []) :
    field keys entries = .ok content ↔ IsField keys entries content := by
  refine ⟨fun h => ?_, IsField.field_eq⟩
  rcases isField_or_faultAt hkeys entries with ⟨content', hfield⟩ | ⟨problem, hfault⟩
  · rw [hfield.field_eq] at h
    injection h with h
    exact h ▸ hfield
  · rw [hfault.field_eq] at h
    cases h

theorem field_eq_error_iff (hkeys : keys ≠ []) :
    field keys entries = .error problem ↔ FaultAt keys entries problem := by
  refine ⟨fun h => ?_, FaultAt.field_eq⟩
  rcases isField_or_faultAt hkeys entries with ⟨content, hfield⟩ | ⟨problem', hfault⟩
  · rw [hfield.field_eq] at h
    cases h
  · rw [hfault.field_eq] at h
    injection h with h
    exact h ▸ hfault

/-! ## Tables -/

/-- What is wrong with an answer: the faults of its fields, the description first, and there is
one. -/
def IsRefusal (entries : Entries Value) (problems : List (Text × Fault)) : Prop :=
  problems ≠ [] ∧ ∃ first second : Option (Text × Fault), problems = first.toList ++ second.toList ∧
    (∀ problem, problem ∈ first ↔ FaultAt descriptionKeys entries problem) ∧
    ∀ problem, problem ∈ second ↔ FaultAt nameKeys entries problem

/-- What is wrong with the field under `keys`, if it is not in order. -/
def fault? (keys : List Text) (entries : Entries Value) : Option (Text × Fault) :=
  match field keys entries with
  | .ok _ => none
  | .error problem => some problem

theorem mem_fault?_iff (hkeys : keys ≠ []) :
    problem ∈ fault? keys entries ↔ FaultAt keys entries problem := by
  rw [← field_eq_error_iff hkeys, fault?]
  cases field keys entries <;> simp

theorem descriptionKeys_ne_nil : descriptionKeys ≠ [] := List.cons_ne_nil _ _

theorem nameKeys_ne_nil : nameKeys ≠ [] := List.cons_ne_nil _ _

theorem isRefusal_iff_fault? :
    IsRefusal entries problems ↔ problems ≠ [] ∧
      problems = (fault? descriptionKeys entries).toList ++ (fault? nameKeys entries).toList := by
  refine and_congr_right fun _ => ⟨?_, fun h => ?_⟩
  · rintro ⟨first, second, rfl, hfirst, hsecond⟩
    have hfirst' : first = fault? descriptionKeys entries := Option.ext fun problem => by
      rw [← Option.mem_def, ← Option.mem_def, hfirst, mem_fault?_iff descriptionKeys_ne_nil]
    have hsecond' : second = fault? nameKeys entries := Option.ext fun problem => by
      rw [← Option.mem_def, ← Option.mem_def, hsecond, mem_fault?_iff nameKeys_ne_nil]
    rw [hfirst', hsecond']
  · exact ⟨_, _, h, fun _ => mem_fault?_iff descriptionKeys_ne_nil,
      fun _ => mem_fault?_iff nameKeys_ne_nil⟩

theorem ofEntries_eq_ok_iff :
    ofEntries entries = .ok suggestion ↔ IsSuggestion entries suggestion := by
  refine ⟨fun h => ?_, IsSuggestion.ofEntries_eq⟩
  rcases isSuggestion_or_isInvalid entries with ⟨suggestion', hsuggestion⟩ | hinvalid
  · rw [hsuggestion.ofEntries_eq] at h
    injection h with h
    exact h ▸ hsuggestion
  · obtain ⟨problems, herror, -⟩ := hinvalid.ofEntries_eq
    rw [herror] at h
    cases h

theorem ofEntries_eq_error_iff {invalid : Invalid} :
    ofEntries entries = .error invalid ↔
      ∃ problems, invalid = .fields problems ∧ IsRefusal entries problems := by
  simp only [isRefusal_iff_fault?]
  unfold ofEntries fault?
  cases field descriptionKeys entries <;> cases field nameKeys entries <;>
    simp [@eq_comm _ invalid]

/-! ## What makes no difference -/

/-- The same value counts for the field, under the same key. -/
def SameChoice (keys : List Text) (entries entries' : Entries Value) : Prop :=
  ∀ key value, Chosen keys entries key value ↔ Chosen keys entries' key value

theorem SameChoice.field_eq (h : SameChoice keys entries entries') :
    field keys entries = field keys entries' := by
  have hchoice : choose? keys entries = choose? keys entries' := Option.ext fun choice => by
    rw [choose?_eq_some_iff, choose?_eq_some_iff, h]
  rw [field, field, hchoice]

theorem sameChoice_of_get? (h : ∀ key ∈ keys, entries.get? key = entries'.get? key) :
    SameChoice keys entries entries' := by
  intro key value
  refine exists_congr fun before => exists_congr fun after => and_congr_right fun hkeys => ?_
  subst hkeys
  have hkey := h key (List.mem_append_right _ List.mem_cons_self)
  rw [hkey]
  refine and_congr_right fun _ => forall₂_congr fun skipped hskipped => ?_
  rw [h skipped (List.mem_append_left _ hskipped)]

/-- The answers agree in the values that count and in their renames. What else they hold, and in
which order, is left open. -/
structure Agree (entries entries' : Entries Value) : Prop where
  description : SameChoice descriptionKeys entries entries'
  name : SameChoice nameKeys entries entries'
  renames : entries.get? "variables" = entries'.get? "variables"

theorem Agree.ofEntries_eq (h : Agree entries entries') :
    ofEntries entries = ofEntries entries' := by
  unfold ofEntries
  rw [h.description.field_eq, h.name.field_eq, h.renames]

/-! ## What takes the place of the renames -/

/-- The answer with the renames that are kept under `variables`, and with all that is set aside
under a key of its own, whatever came under these keys. -/
def withRenames (entries : Entries Value) : Entries Value :=
  let renames := Renames.ofValue ((entries.get? "variables").getD .null)
  (entries.put "variables" (.table (Renames.table renames.kept))).put "dropped_variables"
    (.list (Renames.rows renames.dropped))

/-- A suggestion is spelled out by an answer, each part under its own key. -/
structure Spells (entries : Entries Value) (suggestion : Suggestion) : Prop where
  description : IsField descriptionKeys entries suggestion.description
  name : IsField nameKeys entries suggestion.name
  renames : entries.get? "variables" = some (.table (Renames.table suggestion.renames))
  dropped : entries.get? "dropped_variables" = some (.list (Renames.rows suggestion.dropped))

theorem get?_withRenames (hvariables : key ≠ "variables") (hdropped : key ≠ "dropped_variables") :
    (withRenames entries).get? key = entries.get? key := by
  rw [withRenames, Entries.get?_put, if_neg (Ne.symm hdropped), Entries.get?_put,
    if_neg (Ne.symm hvariables)]

theorem field_withRenames (h : ∀ key ∈ keys, key ≠ "variables" ∧ key ≠ "dropped_variables") :
    field keys (withRenames entries) = field keys entries :=
  (sameChoice_of_get? fun key hkey => get?_withRenames (h key hkey).1 (h key hkey).2).field_eq

theorem field_description_withRenames :
    field descriptionKeys (withRenames entries) = field descriptionKeys entries :=
  field_withRenames (by decide)

theorem field_name_withRenames : field nameKeys (withRenames entries) = field nameKeys entries :=
  field_withRenames (by decide)

theorem spells_withRenames_iff :
    Spells (withRenames entries) suggestion ↔ IsSuggestion entries suggestion := by
  have hdescription : IsField descriptionKeys (withRenames entries) suggestion.description ↔
      IsField descriptionKeys entries suggestion.description := by
    rw [← field_eq_ok_iff descriptionKeys_ne_nil, field_description_withRenames,
      field_eq_ok_iff descriptionKeys_ne_nil]
  have hname : IsField nameKeys (withRenames entries) suggestion.name ↔
      IsField nameKeys entries suggestion.name := by
    rw [← field_eq_ok_iff nameKeys_ne_nil, field_name_withRenames, field_eq_ok_iff nameKeys_ne_nil]
  have hvariables : (withRenames entries).get? "variables" = some (.table (Renames.table
      (Renames.ofValue ((entries.get? "variables").getD .null)).kept)) := by
    rw [withRenames, Entries.get?_put, if_neg (by decide), Entries.get?_put, if_pos rfl]
  have hdropped : (withRenames entries).get? "dropped_variables" = some (.list (Renames.rows
      (Renames.ofValue ((entries.get? "variables").getD .null)).dropped)) := by
    rw [withRenames, Entries.get?_put, if_pos rfl]
  constructor
  · rintro ⟨h, h', hrenames, hrows⟩
    rw [hvariables, Option.some_inj, Value.table.injEq, Renames.table_inj] at hrenames
    rw [hdropped, Option.some_inj, Value.list.injEq, Renames.rows_inj] at hrows
    exact ⟨hdescription.1 h, hname.1 h', hrenames.symm, hrows.symm⟩
  · rintro ⟨h, h', hrenames, hrows⟩
    exact ⟨hdescription.2 h, hname.2 h', by rw [hvariables, hrenames], by rw [hdropped, hrows]⟩

theorem isRefusal_withRenames_iff :
    IsRefusal (withRenames entries) problems ↔ IsRefusal entries problems := by
  simp only [isRefusal_iff_fault?, fault?, field_description_withRenames, field_name_withRenames]

/-- An answer makes a suggestion just when both fields are in order, and then the suggestion holds
these fields and the renames under `variables`; otherwise each fault is told, under the key that
counts. It is the same as reading the answer with its renames put in place of whatever stood there.
Answers that agree in what counts come to the same, whatever else they hold. -/
theorem ofValue_determined :
    (∀ entries suggestion, ofValue (.table entries) = .ok suggestion ↔
      IsSuggestion entries suggestion) ∧
    (∀ entries, (∃ suggestion, ofValue (.table entries) = .ok suggestion) ↔
      (∃ content, IsField descriptionKeys entries content) ∧
        ∃ content, IsField nameKeys entries content) ∧
    (∀ entries invalid, ofValue (.table entries) = .error invalid ↔
      ∃ problems, invalid = .fields problems ∧ IsRefusal entries problems) ∧
    (∀ entries, (∀ suggestion, Spells (withRenames entries) suggestion ↔
        IsSuggestion entries suggestion) ∧
      ∀ problems, IsRefusal (withRenames entries) problems ↔ IsRefusal entries problems) ∧
    ∀ entries entries', Agree entries entries' →
      ofValue (.table entries) = ofValue (.table entries') := by
  refine ⟨fun _ _ => ofEntries_eq_ok_iff, fun entries => ?_, fun _ _ => ofEntries_eq_error_iff,
    fun _ => ⟨fun _ => spells_withRenames_iff, fun _ => isRefusal_withRenames_iff⟩,
    fun _ _ => Agree.ofEntries_eq⟩
  constructor
  · rintro ⟨suggestion, h⟩
    have hsuggestion := ofEntries_eq_ok_iff.1 h
    exact ⟨⟨_, hsuggestion.description⟩, ⟨_, hsuggestion.name⟩⟩
  · rintro ⟨⟨description, hdescription⟩, ⟨name, hname⟩⟩
    exact ⟨⟨description, name, _, _⟩, ofEntries_eq_ok_iff.2 ⟨hdescription, hname, rfl, rfl⟩⟩

/-- An answer that brings along entries to be set aside, and a name that does not count, comes to
the same as one that holds nothing else. -/
theorem ofValue_determined_hostile :
    let entries : Entries Value :=
      [("dropped_variables", .list [.list [.text "x", .text "y"]]), ("suggested_name", .text "g"),
        ("name", .text " f"), ("comment", .text "d "), ("variables", .null)]
    let entries' : Entries Value :=
      [("variables", .null), ("comment", .text "d "), ("name", .text " f")]
    Agree entries entries' ∧ ofValue (.table entries) = ofValue (.table entries') ∧
      ofValue (.table entries') = .ok ⟨"d", "f", [], []⟩ := by
  intro entries entries'
  have hagree : Agree entries entries' := by
    refine ⟨fun key value => ?_, fun key value => ?_, rfl⟩
    · rw [← choose?_eq_some_iff, ← choose?_eq_some_iff]
      rfl
    · rw [← choose?_eq_some_iff, ← choose?_eq_some_iff]
      rfl
  exact ⟨hagree, ofValue_determined.2.2.2.2 entries entries' hagree, rfl⟩

end Suggestion

end Nomenclator
