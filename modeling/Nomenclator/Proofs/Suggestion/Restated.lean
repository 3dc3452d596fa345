import Nomenclator.Proofs.Rename.Words
import Nomenclator.Proofs.Suggestion.Determined

/-!
# Suggestions given again

A suggestion that comes back as an answer is read as it was. Nothing is left to strip, every rename
is one of identifiers, and no old name comes twice, so no entry is set aside.
-/

namespace Nomenclator

theorem Text.strip_strip (t : Text) : t.strip.strip = t.strip := Text.trim_trim _ t

theorem strip_of_isIdentifier {name : Text} (h : isIdentifier name = true) : name.strip = name := by
  have hplain : ∀ r ∈ name, r.isBlank = false := fun r hr =>
    isBlank_of_isWord (isWord_of_isAsciiWord (isAsciiWord_of_mem_identifier h hr))
  have hstart : name.dropWhile Rune.isBlank = name :=
    Text.dropWhile_of_stop fun r hr => hplain r (List.mem_of_mem_head? hr)
  rw [Text.strip, Text.trim, hstart]
  exact Text.dropEndWhile_of_not hplain

namespace Renames

/-! ## Renames that are all usable -/

/-- Renames as a list of items that hold both names. -/
def items (renames : Entries Text) : List Value :=
  renames.map fun entry =>
    .table [("original_name", .text entry.1), ("new_name", .text entry.2)]

/-- Renames as pairs of values. -/
def textPairs (renames : Entries Text) : List (Value × Value) :=
  renames.map fun entry => (.text entry.1, .text entry.2)

theorem pairs_table (renames : Entries Text) : pairs (.table (table renames)) = textPairs renames :=
  List.map_map

theorem lists_items (renames : Entries Text) : Lists (items renames) (table renames) := by
  rw [Lists, items, table, List.map_map, List.map_map]
  rfl

theorem usable?_of_identifiers {old new : Text} (hold : isIdentifier old = true)
    (hnew : isIdentifier new = true) : usable? (.text old, .text new) = some (old, new) := by
  rw [usable?, strip_of_isIdentifier hold, strip_of_isIdentifier hnew, if_pos ⟨hold, hnew⟩]

theorem keptOf_textPairs {renames : Entries Text} (h : AreIdentifiers renames)
    (hnodup : renames.keys.Nodup) : keptOf (textPairs renames) = renames := by
  induction renames using List.reverseRecOn with
  | nil => rfl
  | append_singleton renames entry ih =>
    obtain ⟨old, new⟩ := entry
    obtain ⟨hrenames, hlast⟩ := areIdentifiers_append.1 h
    obtain ⟨hold, hnew⟩ := hlast _ (List.mem_singleton_self _)
    rw [Entries.keys, List.map_append, List.perm_append_comm.nodup_iff] at hnodup
    obtain ⟨hfresh, hnodup⟩ := List.nodup_cons.1 hnodup
    have hkept := ih hrenames hnodup
    have hfree : Entries.hasKey old ((textPairs renames).filterMap usable?) = false := by
      rw [← hasKey_keptOf, hkept]
      exact Entries.hasKey_eq_false_of_get? (Entries.get?_eq_none_iff.2 hfresh)
    have hfirst : firstNames? (textPairs renames) (.text old, .text new) = some (old, new) := by
      rw [firstNames?, usable?_of_identifiers hold hnew, Option.filter_some, hfree]
      rfl
    rw [textPairs, List.map_append, ← textPairs, List.map_singleton, keptOf_concat, hkept, hfirst,
      Option.toList_some]

theorem droppedOf_textPairs {renames : Entries Text} (h : AreIdentifiers renames)
    (hnodup : renames.keys.Nodup) : droppedOf (textPairs renames) = [] := by
  have hlength := length_keptOf_add_length_droppedOf (textPairs renames)
  rw [keptOf_textPairs h hnodup, textPairs, List.length_map] at hlength
  exact List.length_eq_zero_iff.1 (by rw [textPairs]; omega)

theorem ofValue_table {renames : Entries Text} (h : AreIdentifiers renames)
    (hnodup : renames.keys.Nodup) : ofValue (.table (table renames)) = ⟨renames, []⟩ := by
  rw [ofValue_eq, pairs_table, keptOf_textPairs h hnodup, droppedOf_textPairs h hnodup]
  rfl

theorem ofValue_items {renames : Entries Text} (h : AreIdentifiers renames)
    (hnodup : renames.keys.Nodup) : ofValue (.list (items renames)) = ⟨renames, []⟩ := by
  rw [ofValue_of_lists (lists_items renames), ofValue_table h hnodup]

end Renames

namespace Suggestion

/-- An answer that says what a suggestion holds, with its renames in some form. -/
def restated (suggestion : Suggestion) (given : Value) : Value :=
  .table [("description", .text suggestion.description), ("name", .text suggestion.name),
    ("variables", given)]

/-! ## Fields -/

variable {keys : List Text} {entries : Entries Value} {content : Text}

theorem IsField.stripped (h : IsField keys entries content) :
    content.strip = content ∧ ¬content.Blank := by
  obtain ⟨key, t, -, hblank, rfl⟩ := h
  refine ⟨Text.strip_strip t, ?_⟩
  rw [← Text.strip_eq_nil_iff, Text.strip_strip, Text.strip_eq_nil_iff]
  exact hblank

theorem isField_of_first {key : Text} {rest : List Text}
    (hget : entries.get? key = some (.text content)) (hstrip : content.strip = content)
    (hblank : ¬content.Blank) : IsField (key :: rest) entries content :=
  ⟨key, content, ⟨[], rest, rfl, hget, by simp⟩, hblank, hstrip.symm⟩

/-! ## Suggestions -/

variable {suggestion : Suggestion} {value : Value}

theorem exists_of_ofValue (h : ofValue value = .ok suggestion) :
    ∃ entries, value = .table entries ∧ IsSuggestion entries suggestion := by
  cases value with
  | table entries => exact ⟨entries, rfl, ofEntries_eq_ok_iff.1 h⟩
  | _ => simp [ofValue] at h

/-- The answer is read as the suggestion, whatever form its renames have, if they are all kept. -/
theorem ofValue_restated {given : Value} (h : ofValue value = .ok suggestion)
    (hrenames : Renames.ofValue given = ⟨suggestion.renames, []⟩) :
    ofValue (suggestion.restated given) = .ok { suggestion with dropped := [] } := by
  obtain ⟨entries, rfl, hsuggestion⟩ := exists_of_ofValue h
  obtain ⟨hdescription, hdescribed⟩ := hsuggestion.description.stripped
  obtain ⟨hname, hnamed⟩ := hsuggestion.name.stripped
  refine ofEntries_eq_ok_iff.2 ⟨?_, ?_, ?_, ?_⟩
  · exact isField_of_first (by rfl) hdescription hdescribed
  · exact isField_of_first (by rfl) hname hnamed
  · exact (congrArg Renames.kept hrenames).symm
  · exact (congrArg Renames.dropped hrenames).symm

/-- A suggestion is read back from an answer that says what it holds, with its renames as a table or
as a list of items: the description, the name and the renames in their order, and no entry is set
aside. -/
theorem ofValue_again (value : Value) (suggestion : Suggestion)
    (h : ofValue value = .ok suggestion) :
    ofValue (suggestion.restated (.table (Renames.table suggestion.renames))) =
        .ok { suggestion with dropped := [] } ∧
      ofValue (suggestion.restated (.list (Renames.items suggestion.renames))) =
        .ok { suggestion with dropped := [] } := by
  obtain ⟨given, hgiven⟩ := ofValue_renames h
  have hids : AreIdentifiers suggestion.renames := hgiven ▸ Renames.ofValue_areIdentifiers given
  have hnodup : suggestion.renames.keys.Nodup := hgiven ▸ Renames.nodup_ofValue given
  exact ⟨ofValue_restated h (Renames.ofValue_table hids hnodup),
    ofValue_restated h (Renames.ofValue_items hids hnodup)⟩

/-- Blanks around all texts, an old name that comes twice, and a rename that is none. -/
theorem ofValue_again_blanks :
    let value : Value := .table [("comment", .text "\n sums \u2003"), ("name", .text " sum"),
      ("variables", .table [("v1", .text " n"), (" v2", .text "v1"), ("v1 ", .text "m"),
        ("v3", .null)])]
    let suggestion : Suggestion :=
      ⟨"sums", "sum", [("v1", "n"), ("v2", "v1")], [("v1", "m"), ("v3", "None")]⟩
    ofValue value = .ok suggestion ∧
      ofValue (suggestion.restated (.table [("v1", .text "n"), ("v2", .text "v1")])) =
        .ok { suggestion with dropped := [] } := by
  intro value suggestion
  have h : ofValue value = .ok suggestion := by rfl
  exact ⟨h, (ofValue_again value suggestion h).1⟩

end Suggestion

end Nomenclator
