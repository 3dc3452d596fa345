import Nomenclator.Proofs.Analysis.Sequence
import Nomenclator.Proofs.Rename.Counts
import Nomenclator.Proofs.Suggestion.Sorting

/-!
# What an analysis says of its renames

The numbers of an analysis are those of the words in the function: how often each old name occurs,
which ones do not, how many words were renamed, and by how much the text has grown.
-/

namespace Nomenclator

/-- What the outcome of a renaming tells, read off the words of the text. -/
structure IsTally (text : Text) (renames : Entries Text) (outcome : RenameOutcome) : Prop where
  perName : outcome.perName = renames.map fun entry => (entry.1, (words text).count entry.1)
  unmatched : outcome.unmatched = renames.keys.filter fun name => name ∉ words text
  /-- Names that stay as they are do not count. -/
  substitutions : outcome.substitutions =
    ((renames.filter fun entry => entry.2 ≠ entry.1).map fun entry =>
      (words text).count entry.1).sum
  renamed : outcome.substitutions = (words text).countP fun word => newName renames word != word
  unchanged : outcome.text = text ↔ outcome.substitutions = 0
  length : (outcome.text.length : Int) = text.length +
    (renames.map fun entry =>
      ((words text).count entry.1 : Int) * (entry.2.length - entry.1.length)).sum

section

variable {renames : Entries Text} (h : AreIdentifiers renames) (hnodup : renames.keys.Nodup)
include h

theorem unmatched_renameAll (text : Text) :
    (renameAll text renames).unmatched = renames.keys.filter fun name => name ∉ words text := by
  rw [RenameOutcome.unmatched, RenameOutcome.unmatchedNames, perName_renameAll h, List.filter_map,
    List.map_map]
  refine (List.map_id' _).trans (List.filter_congr fun name _ => ?_)
  rw [Function.comp_apply, Bool.eq_iff_iff, beq_iff_eq, List.count_eq_zero, decide_eq_true_iff]

include hnodup

theorem isTally_renameAll (text : Text) : IsTally text renames (renameAll text renames) where
  perName := by
    rw [perName_renameAll h, Entries.keys, List.map_map]
    rfl
  unmatched := unmatched_renameAll h text
  substitutions := by
    have hterm : ∀ entry ∈ renames,
        (if newName renames entry.1 = entry.1 then 0 else (words text).count entry.1) =
          if entry.2 = entry.1 then 0 else (words text).count entry.1 :=
      fun entry hentry => by rw [newName_of_mem hnodup hentry]
    rw [substitutions_renameAll h, Entries.keys, List.map_map]
    refine (congrArg List.sum (List.map_congr_left hterm)).trans ?_
    rw [List.sum_map_ite]
    simp
  renamed := substitutions_eq_countP h hnodup text
  unchanged := (substitutions_eq_zero_iff h hnodup text).symm
  length := by
    rw [length_renameAll h hnodup, Entries.keys, List.map_map]
    congr 2
    refine List.map_congr_left fun entry hentry => ?_
    rw [Function.comp_apply, newName_of_mem hnodup hentry]

end

/-- The outcome in an analysis is the tally of the function under the renames suggested for it. -/
theorem analysis_isTally {ρ : Type} (backend : Backend ρ) (settings : Settings) (index : Nat)
    (snippet : Text) (reply : ρ) (analysis : Analysis)
    (h : (Attempt.analysis backend settings index snippet reply).result = .ok analysis) :
    IsTally snippet analysis.suggestion.renames analysis.outcome := by
  obtain ⟨body, suggestion, -, hreply, rfl⟩ := Attempt.analysis_eq_ok_iff.1 h
  obtain ⟨given, hgiven⟩ := Suggestion.ofReply_renames hreply
  have hnodup : suggestion.renames.keys.Nodup := hgiven ▸ Renames.nodup_ofValue given
  exact isTally_renameAll (Suggestion.ofReply_areIdentifiers hreply) hnodup snippet

/-- A reply that renames a name, keeps another one, and has one that the function does not hold. -/
def tallyBody : Text :=
  "\x7b\"response\": \"\x7b\\\"name\\\": \\\"f\\\", \\\"comment\\\": \\\"d\\\", " ++
    "\\\"variables\\\": \x7b\\\"v\\\": \\\"sum\\\", \\\"b\\\": \\\"b\\\", " ++
    "\\\"w\\\": \\\"x\\\"\x7d\x7d\"\x7d"

/-- The suggestion in it. -/
def tallySuggestion : Suggestion := ⟨"d", "f", [("v", "sum"), ("b", "b"), ("w", "x")], []⟩

theorem ofReply_tallyBody : (Suggestion.ofReply tallyBody).1 = .ok tallySuggestion := by cbv

/-- A backend that hands the reply on as it is. -/
theorem analysis_isTally_echo :
    let echo : Backend Text := ⟨fun _ body => ⟨.ok body, [], []⟩, []⟩
    ∃ analysis,
      (Attempt.analysis echo Settings.default 0 "v=v+b-v2" tallyBody).result = .ok analysis ∧
        IsTally "v=v+b-v2" analysis.suggestion.renames analysis.outcome ∧
        analysis.outcome = ⟨"sum=sum+b-v2", 2, [("v", 2), ("b", 1), ("w", 0)]⟩ := by
  intro echo
  have h : (Attempt.analysis echo Settings.default 0 "v=v+b-v2" tallyBody).result =
      .ok (Analysis.ofSuggestion 0 "v=v+b-v2" tallySuggestion) :=
    Attempt.analysis_eq_ok_iff.2 ⟨tallyBody, tallySuggestion, rfl, ofReply_tallyBody, rfl⟩
  exact ⟨_, h, analysis_isTally echo Settings.default 0 "v=v+b-v2" tallyBody _ h, by cbv⟩

end Nomenclator
