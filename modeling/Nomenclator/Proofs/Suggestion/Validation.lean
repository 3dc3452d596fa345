import Nomenclator.Proofs.Text.Basic
import Nomenclator.Suggestion.Basic

/-!
# Which tables make a suggestion

The first key of a field that is present counts for the field, whatever stands under it and under
the keys after it. Every problem is told with one of the keys.
-/

namespace Nomenclator

/-- Nothing but blanks. -/
def Text.Blank (t : Text) : Prop := ∀ r ∈ t, r.isBlank = true

theorem Text.strip_eq_nil_iff {t : Text} : t.strip = [] ↔ t.Blank := by
  constructor
  · intro h
    rw [Text.Blank, ← List.all_eq_true, ← Text.all_trim (fun _ hr => hr) t, ← Text.strip, h]
    rfl
  · intro h
    rw [Text.strip, Text.trim, List.dropWhile_eq_nil_iff.2 h]
    rfl

namespace Suggestion

/-! ## Fields -/

/-- `value` stands under `key`, the first of `keys` that is present. -/
def Chosen (keys : List Text) (entries : Entries Value) (key : Text) (value : Value) : Prop :=
  ∃ before after, keys = before ++ key :: after ∧ entries.get? key = some value ∧
    ∀ skipped ∈ before, entries.get? skipped = none

/-- The field under `keys` is `content`, blanks around it aside. -/
def IsField (keys : List Text) (entries : Entries Value) (content : Text) : Prop :=
  ∃ key t, Chosen keys entries key (.text t) ∧ ¬t.Blank ∧ content = t.strip

/-- The field under `keys` is missing, no text, or blank. -/
inductive IsFaulty (keys : List Text) (entries : Entries Value) : Prop
  | missing (h : ∀ key ∈ keys, entries.get? key = none)
  | notText {key : Text} {value : Value} (h : Chosen keys entries key value)
      (hno : ∀ t, value ≠ .text t)
  | blank {key t : Text} (h : Chosen keys entries key (.text t)) (hblank : t.Blank)

variable {keys : List Text} {entries : Entries Value} {key content : Text} {value : Value}

theorem choose?_eq_none_iff :
    choose? keys entries = none ↔ ∀ key ∈ keys, entries.get? key = none := by
  simp [choose?]

theorem choose?_eq_some_iff :
    choose? keys entries = some (key, value) ↔ Chosen keys entries key value := by
  unfold choose? Chosen
  simp only [List.findSome?_eq_some_iff, Option.map_eq_some_iff, Option.map_eq_none_iff,
    Prod.mk.injEq]
  constructor
  · rintro ⟨before, key', after, hkeys, ⟨value', hfound, rfl, rfl⟩, hskipped⟩
    exact ⟨before, after, hkeys, hfound, hskipped⟩
  · rintro ⟨before, after, hkeys, hfound, hskipped⟩
    exact ⟨before, key, after, hkeys, ⟨value, hfound, rfl, rfl⟩, hskipped⟩

theorem Chosen.mem (h : Chosen keys entries key value) : key ∈ keys := by
  obtain ⟨before, after, rfl, -⟩ := h
  exact List.mem_append_right _ List.mem_cons_self

theorem isField_or_isFaulty (keys : List Text) (entries : Entries Value) :
    (∃ content, IsField keys entries content) ∨ IsFaulty keys entries := by
  cases hchoice : choose? keys entries with
  | none => exact .inr (.missing (choose?_eq_none_iff.1 hchoice))
  | some choice =>
    obtain ⟨key, value⟩ := choice
    have hchosen := choose?_eq_some_iff.1 hchoice
    by_cases htext : ∃ t, value = .text t
    · obtain ⟨t, rfl⟩ := htext
      by_cases hblank : t.Blank
      · exact .inr (.blank hchosen hblank)
      · exact .inl ⟨t.strip, key, t, hchosen, hblank, rfl⟩
    · exact .inr (.notText hchosen fun t ht => htext ⟨t, ht⟩)

theorem IsField.field_eq (h : IsField keys entries content) : field keys entries = .ok content := by
  obtain ⟨key, t, hchosen, hblank, rfl⟩ := h
  have hstrip : t.strip.isEmpty = false := by
    rw [List.isEmpty_eq_false_iff, ne_eq, Text.strip_eq_nil_iff]
    exact hblank
  simp [field, choose?_eq_some_iff.2 hchosen, hstrip]

theorem IsFaulty.field_eq (hkeys : keys ≠ []) (h : IsFaulty keys entries) :
    ∃ key ∈ keys, ∃ fault, field keys entries = .error (key, fault) := by
  cases h with
  | missing h =>
    obtain ⟨first, rest, rfl⟩ := List.exists_cons_of_ne_nil hkeys
    exact ⟨first, List.mem_cons_self, .missing, by simp [field, choose?_eq_none_iff.2 h]⟩
  | @notText key value hchosen hno =>
    refine ⟨key, hchosen.mem, .notText, ?_⟩
    unfold field
    rw [choose?_eq_some_iff.2 hchosen]
    cases value with
    | text t => exact absurd rfl (hno t)
    | _ => rfl
  | @blank key t hchosen hblank =>
    refine ⟨key, hchosen.mem, .blank, ?_⟩
    simp [field, choose?_eq_some_iff.2 hchosen, Text.strip_eq_nil_iff.2 hblank]

/-! ## Tables -/

/-- The suggestion that `entries` make, both fields being in order. -/
structure IsSuggestion (entries : Entries Value) (suggestion : Suggestion) : Prop where
  description : IsField descriptionKeys entries suggestion.description
  name : IsField nameKeys entries suggestion.name
  renames : suggestion.renames = (Renames.ofValue ((entries.get? "variables").getD .null)).kept
  dropped : suggestion.dropped = (Renames.ofValue ((entries.get? "variables").getD .null)).dropped

/-- One of the two fields is at fault, or both are. -/
def IsInvalid (entries : Entries Value) : Prop :=
  IsFaulty descriptionKeys entries ∨ IsFaulty nameKeys entries

theorem isSuggestion_or_isInvalid (entries : Entries Value) :
    (∃ suggestion, IsSuggestion entries suggestion) ∨ IsInvalid entries := by
  rcases isField_or_isFaulty descriptionKeys entries with ⟨description, hdescription⟩ | h
  · rcases isField_or_isFaulty nameKeys entries with ⟨name, hname⟩ | h
    · exact .inl ⟨⟨description, name, _, _⟩, hdescription, hname, rfl, rfl⟩
    · exact .inr (.inr h)
  · exact .inr (.inl h)

theorem IsSuggestion.ofEntries_eq {suggestion : Suggestion} (h : IsSuggestion entries suggestion) :
    ofEntries entries = .ok suggestion := by
  unfold ofEntries
  simp only [h.description.field_eq, h.name.field_eq, ← h.renames, ← h.dropped]

theorem IsInvalid.ofEntries_eq (h : IsInvalid entries) :
    ∃ problems, ofEntries entries = .error (.fields problems) ∧
      ∀ problem ∈ problems, problem.1 ∈ descriptionKeys ++ nameKeys := by
  unfold ofEntries
  rcases isField_or_isFaulty descriptionKeys entries with ⟨description, hdescription⟩ | hfirst
  · have hname : IsFaulty nameKeys entries := by
      rcases h with h | h
      · obtain ⟨key, -, fault, herror⟩ := h.field_eq (by simp [descriptionKeys])
        rw [hdescription.field_eq] at herror
        exact absurd herror (by simp)
      · exact h
    obtain ⟨key, hkey, fault, herror⟩ := hname.field_eq (by simp [nameKeys])
    exact ⟨[(key, fault)], by simp only [hdescription.field_eq, herror],
      List.forall_mem_singleton.2 (List.mem_append_right _ hkey)⟩
  · obtain ⟨key, hkey, fault, herror⟩ := hfirst.field_eq (by simp [descriptionKeys])
    rcases isField_or_isFaulty nameKeys entries with ⟨name, hname⟩ | hsecond
    · exact ⟨[(key, fault)], by simp only [hname.field_eq, herror],
        List.forall_mem_singleton.2 (List.mem_append_left _ hkey)⟩
    · obtain ⟨key', hkey', fault', herror'⟩ := hsecond.field_eq (by simp [nameKeys])
      exact ⟨[(key, fault), (key', fault')], by simp only [herror, herror'],
        List.forall_mem_cons.2 ⟨List.mem_append_left _ hkey,
          List.forall_mem_singleton.2 (List.mem_append_right _ hkey')⟩⟩

theorem IsSuggestion.unique {suggestion suggestion' : Suggestion}
    (h : IsSuggestion entries suggestion) (h' : IsSuggestion entries suggestion') :
    suggestion = suggestion' := by
  have hsame := h'.ofEntries_eq
  rw [h.ofEntries_eq] at hsame
  injection hsame

theorem IsInvalid.not_isSuggestion {suggestion : Suggestion} (h : IsInvalid entries) :
    ¬IsSuggestion entries suggestion := by
  intro hsuggestion
  obtain ⟨problems, herror, -⟩ := h.ofEntries_eq
  rw [hsuggestion.ofEntries_eq] at herror
  exact absurd herror (by simp)

end Suggestion

end Nomenclator
