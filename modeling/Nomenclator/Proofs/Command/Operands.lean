import Nomenclator.Command.Program
import Nomenclator.Proofs.Files.Questions
import Nomenclator.Proofs.Files.Tree
import Nomenclator.Proofs.Text.Basic

/-!
# Paths alone on the command line

A command line of the command's name and some paths, without any switch, asks for the task with its
defaults on just these paths. Each path has to lead to something.
-/

namespace Nomenclator

open FileTree

variable {tree : FileTree} {base : Location}

/-! ## Texts of paths -/

/-- The text of the path is a word of a command line that stands for the path. -/
structure Path.IsOperand (p : Path) : Prop where
  relative : p.root = .relative
  some : p.names ≠ []
  plain : ∀ name ∈ p.names, name ≠ [] ∧ name ≠ "." ∧ slash ∉ name
  bare : ∀ name ∈ p.names.head?, name.head? ≠ .some Command.dash

namespace Path.IsOperand

variable {p : Path}

theorem toText_eq (h : p.IsOperand) : p.toText = Text.join [slash] p.names := by
  rw [toText, if_neg fun hdot => h.some hdot.2, h.relative]
  rfl

theorem exists_toText (h : p.IsOperand) :
    ∃ r t, p.toText = r :: t ∧ r ≠ slash ∧ r ≠ Command.dash := by
  obtain ⟨name, rest, hnames⟩ := List.exists_cons_of_ne_nil h.some
  obtain ⟨hname, -, hslash⟩ := h.plain name (by rw [hnames]; exact List.mem_cons_self)
  obtain ⟨r, more, rfl⟩ := List.exists_cons_of_ne_nil hname
  have hdash : r ≠ Command.dash := by
    have hbare := h.bare (r :: more) (by rw [hnames]; rfl)
    simpa using hbare
  obtain ⟨t, htext⟩ : ∃ t, p.toText = r :: t := by
    rw [h.toText_eq, hnames]
    cases rest <;> exact ⟨_, rfl⟩
  exact ⟨r, t, htext, Ne.symm (List.ne_of_not_mem_cons hslash), hdash⟩

theorem ofText_toText (h : p.IsOperand) : ofText p.toText = p := by
  have hroot : rootOf p.toText = .relative := by
    obtain ⟨r, t, htext, hslash, -⟩ := h.exists_toText
    rw [rootOf, htext, List.takeWhile_cons_of_neg (by simpa using hslash)]
    rfl
  have hnames : namesIn p.toText = p.names := by
    rw [namesIn, h.toText_eq, Text.piecesAt_join h.some fun name hname => (h.plain name hname).2.2]
    refine List.filter_eq_self.2 fun name hname => ?_
    obtain ⟨hsome, hdot, -⟩ := h.plain name hname
    simp [hsome, hdot]
  rw [ofText, hroot, hnames, ← h.relative]

end Path.IsOperand

/-! ## Where they lead -/

namespace FileTree

theorem leadsSomewhere_of_file {t : Text} {location : Location} {content : Content} {last : Text}
    (h : tree.lookup base (Path.ofText t) = .ok (location, .file content))
    (hlast : (Text.piecesAt Path.slash t).getLast? = some last) (hname : last ≠ [] ∧ last ≠ ".")
    (hsystem : isSystemText t = true) (hfits : systemLength t ≤ pathLimit) :
    tree.leadsSomewhere base t = true := by
  have hempty : last.isEmpty = false := by simpa using hname.1
  simp [leadsSomewhere, hsystem, Nat.not_lt.2 hfits, h, hlast, hempty, hname.2]

theorem leadsSomewhere_toText {p : Path} (hoperand : p.IsOperand) (h : tree.HasDirectory base p) :
    tree.leadsSomewhere base p.toText = true := by
  obtain ⟨location, hlookup⟩ := h
  obtain ⟨hrefusal, -⟩ := find_eq_ok_iff.1 (lookup_eq_ok_iff.1 hlookup)
  have hsystem : isSystemText p.toText = true := by
    rw [hoperand.toText_eq, isSystemText, List.all_eq_true]
    refine Text.forall_mem_join (by decide) fun name hname => ?_
    exact List.all_eq_true.1 (isSystemText_of_refusal?_eq_none hrefusal name hname)
  have hempty : p.toText.isEmpty = false := by
    obtain ⟨r, t, htext, -⟩ := hoperand.exists_toText
    rw [htext]
    rfl
  have hfits := systemLength_of_refusal?_eq_none hrefusal
  simp [leadsSomewhere, hsystem, Nat.not_lt.2 hfits, hoperand.ofText_toText, hlookup, hempty]

end FileTree

/-! ## The command line -/

namespace Command

theorem isSwitchWord_toText {p : Path} (h : p.IsOperand) : isSwitchWord p.toText = false := by
  obtain ⟨r, t, htext, -, hdash⟩ := h.exists_toText
  rw [htext]
  cases t with
  | nil => rfl
  | cons => simpa [isSwitchWord] using hdash

theorem readWords_operands (switches : List Switch) {words : List Text}
    (h : ∀ word ∈ words, isSwitchWord word = false) :
    readWords switches true words = .ok ⟨[], words⟩ := by
  induction words with
  | nil => rw [readWords]
  | cons word rest ih =>
    obtain ⟨hword, hrest⟩ := List.forall_mem_cons.1 h
    have hdashes : word ≠ twoDashes := by
      rintro rfl
      simp [twoDashes, isSwitchWord] at hword
    rw [readWords, if_neg hdashes, hword, ih hrest]
    rfl

theorem readInvocation_operands {words : List Text} (hsome : words ≠ [])
    (hwords : ∀ word ∈ words, isSwitchWord word = false)
    (hlead : ∀ word ∈ words, tree.leadsSomewhere base word = true) :
    readInvocation tree base ("analyze" :: words) =
      .ok ⟨false, .analyze
        ⟨⟨none, none, none⟩, words.map Path.ofText, true, true, false, false⟩⟩ := by
  have hcommand : readWords program.switches false ("analyze" :: words) =
      .ok ⟨[], "analyze" :: words⟩ := by
    rw [readWords, if_neg (by decide)]
    rfl
  have hnamed : named? "analyze" = some .analyze := by decide
  have hurgent (command : Command) (operands : List Text) :
      urgent? command ⟨[], operands⟩ = none := rfl
  have hnone : (words.find? fun word => !tree.leadsSomewhere base word) = none := by
    simpa using hlead
  have htask : taskOf tree base ⟨[], words⟩ =
      .ok ⟨⟨none, none, none⟩, words.map Path.ofText, true, true, false, false⟩ := by
    obtain ⟨first, rest, rfl⟩ := List.exists_cons_of_ne_nil hsome
    simp only [taskOf, hnone]
    rfl
  have hrequest : readRequest tree base .analyze words = .ok (.analyze
      ⟨⟨none, none, none⟩, words.map Path.ofText, true, true, false, false⟩) := by
    simp only [readRequest, readWords_operands _ hwords, requestOf, hurgent, htask]
    rfl
  simp only [readInvocation, hcommand, hurgent, hnamed, hrequest]
  rfl

theorem readInvocation_directories {paths : List Path} (hsome : paths ≠ [])
    (hoperands : ∀ path ∈ paths, path.IsOperand)
    (hdirectories : ∀ path ∈ paths, tree.HasDirectory base path) :
    readInvocation tree base ("analyze" :: paths.map Path.toText) =
      .ok ⟨false, .analyze ⟨⟨none, none, none⟩, paths, true, true, false, false⟩⟩ := by
  have hsame : (paths.map Path.toText).map Path.ofText = paths.map id := by
    rw [List.map_map]
    exact List.map_congr_left fun path hpath => (hoperands path hpath).ofText_toText
  have hread := readInvocation_operands (by simpa using hsome)
    (List.forall_mem_map.2 fun path hpath => isSwitchWord_toText (hoperands path hpath))
    (List.forall_mem_map.2 fun path hpath =>
      leadsSomewhere_toText (hoperands path hpath) (hdirectories path hpath))
  rwa [hsame, List.map_id] at hread

end Command

end Nomenclator
