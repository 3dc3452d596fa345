import Nomenclator.Proofs.Console.Filling
import Nomenclator.Proofs.Console.Pictures
import Nomenclator.Proofs.Console.Running

/-!
# Text shown as it is

Text that is no markup is shown as it is if its lines fit, but for the names of pictures in it. Two
more things can come between, both in lines whose characters and cells differ in number: blanks at
the end of a line, and a joiner at the end of a stretch.
-/

namespace Nomenclator.Console

/-- What it takes for a text whose lines fit to be shown as it is. -/
structure IsShownAsIs (width : Nat) (t : Text) : Prop where
  /-- What stands between colons is no name of a picture. -/
  names : ∀ name ∈ Picture.names t, Picture.ofName? name = none
  /-- A line of more characters than there are cells does not end in a blank. -/
  ends : ∀ line ∈ t.lines, width < line.length → ∀ r ∈ line.getLast?, r.isBlank = false
  /-- A line with joiners fits also when it is measured stretch by stretch. -/
  joins : ∀ line ∈ runningStrips t, joiner ∈ line.text → StretchesFit width line.stretches

/-- Text without tabs and without characters that would move the cursor. -/
def IsSteady (t : Text) : Prop := ∀ r ∈ t, movesCursor r = false ∧ r.code ≠ 0x09

variable {width : Nat} {t : Text}

/-! ## Setting -/

theorem setRunning_eq_lines_iff (hfits : ∀ line ∈ t.lines, cells line ≤ width)
    (htabs : ∀ r ∈ t, r.code ≠ 0x09) :
    setRunning width t [] = .ok t.lines ↔
      (∀ line ∈ t.lines, width < line.length → ∀ r ∈ line.getLast?, r.isBlank = false) ∧
        ∀ line ∈ runningStrips t, joiner ∈ line.text → StretchesFit width line.stretches := by
  have htexts : (runningStrips t).map Strip.text = t.lines := map_text_ofParts _ _ _ _
  have hseamed : ∀ line ∈ runningStrips t, line.IsSeamed := isSeamed_of_mem_ofParts
  rw [setRunning_of_fits hfits htabs, mapM_eq_ok_iff, ← htexts, List.forall₂_map_left_iff,
    List.forall₂_map_right_iff, List.forall₂_same, List.forall_mem_map]
  rw [← htexts, List.forall_mem_map] at hfits
  constructor
  · intro h
    have hline (line : Strip) (hline : line ∈ runningStrips t) :=
      (dropExcess_written_iff (hseamed line hline)).1 (h line hline)
    constructor
    · intro line hmem
      exact (dropExcess_eq_self_iff (hseamed line hmem)).1 (hline line hmem).1
    · intro line hmem hjoiner
      rw [← written_eq_text_iff (hseamed line hmem) (List.ne_nil_of_mem hjoiner)]
      exact (hline line hmem).2
  · rintro ⟨hends, hjoins⟩ line hmem
    rw [dropExcess_written_iff (hseamed line hmem), dropExcess_eq_self_iff (hseamed line hmem)]
    refine ⟨hends line hmem, ?_⟩
    by_cases hjoiner : joiner ∈ line.text
    · rw [written_eq_text_iff (hseamed line hmem) (List.ne_nil_of_mem hjoiner)]
      exact hjoins line hmem hjoiner
    · exact written_of_not_mem (hfits line hmem) hjoiner

theorem length_joinLines_mono {xs ys : List Text}
    (h : List.Forall₂ (fun x y => y.length ≤ x.length) xs ys) :
    (joinLines ys).length ≤ (joinLines xs).length := by
  unfold joinLines
  induction h with
  | nil => exact Nat.le_refl _
  | cons hfirst hrest ih =>
    cases hrest with
    | nil => exact hfirst
    | cons hsecond hmore =>
      rw [Text.join_cons _ _ (List.cons_ne_nil _ _), Text.join_cons _ _ (List.cons_ne_nil _ _)]
      simp only [List.length_append] at ih ⊢
      omega

theorem length_joinLines_le (hfits : ∀ line ∈ t.lines, cells line ≤ width)
    (htabs : ∀ r ∈ t, r.code ≠ 0x09) {lines : List Text} (h : setRunning width t [] = .ok lines) :
    (joinLines lines).length ≤ t.length := by
  have htexts : (runningStrips t).map Strip.text = t.lines := map_text_ofParts _ _ _ _
  rw [setRunning_of_fits hfits htabs, mapM_eq_ok_iff, List.forall₂_map_left_iff] at h
  calc (joinLines lines).length
      ≤ (joinLines ((runningStrips t).map Strip.text)).length :=
        length_joinLines_mono <| List.forall₂_map_left_iff.2 <| h.imp fun line shown hshown =>
          (isCutOf_of_written hshown).length_le.trans (isPrefix_dropExcess width line).length_le
    _ = t.length := by rw [htexts, joinLines_lines]

/-! ## Literal text -/

theorem dropControls_of_isSteady (h : IsSteady t) : dropControls t = t :=
  List.filter_eq_self.2 fun r hr => by simp [(h r hr).1]

theorem count_literal {shown : Text} (h : literal width t = .ok shown) :
    t.count ⟨0x0A⟩ ≤ shown.count ⟨0x0A⟩ ∧
      ((∃ name ∈ Picture.names t, Picture.ofName? name ≠ none) →
        shown.count Picture.colon < t.count Picture.colon) := by
  obtain ⟨lines, hset, rfl⟩ := map_eq_ok_iff.1 h
  -- names are replaced, controls dropped and lines set, and none of that adds a colon
  obtain ⟨hfeeds, -, hless⟩ := Picture.count_replaceNames t
  obtain ⟨hmore, hcolons⟩ := count_joinLines (r := Picture.colon) hset
  have hkept : (dropControls (Picture.replaceNames t)).count ⟨0x0A⟩ =
      (Picture.replaceNames t).count ⟨0x0A⟩ := List.count_filter (by decide)
  have hdropped : (dropControls (Picture.replaceNames t)).count Picture.colon ≤
      (Picture.replaceNames t).count Picture.colon := List.filter_sublist.count_le _
  have hshown := hcolons (by decide) (by decide)
  refine ⟨by omega, fun hknown => ?_⟩
  have := hless hknown
  omega

theorem names_of_count_le {shown : Text} (h : literal width t = .ok shown)
    (hcount : t.count Picture.colon ≤ shown.count Picture.colon) :
    ∀ name ∈ Picture.names t, Picture.ofName? name = none := by
  by_contra hknown
  push Not at hknown
  have := (count_literal h).2 hknown
  omega

theorem literal_of_names (hsteady : IsSteady t)
    (hnames : ∀ name ∈ Picture.names t, Picture.ofName? name = none) :
    literal width t = (setRunning width t []).map joinLines := by
  unfold literal
  rw [Picture.replaceNames_of_unknown hnames, dropControls_of_isSteady hsteady]

theorem literal_eq_self_iff (hfits : ∀ line ∈ t.lines, cells line ≤ width) (hsteady : IsSteady t) :
    literal width t = .ok t ↔ IsShownAsIs width t := by
  have hset := setRunning_eq_lines_iff hfits fun r hr => (hsteady r hr).2
  constructor
  · intro h
    have hnames := names_of_count_le h (Nat.le_refl _)
    rw [literal_of_names hsteady hnames] at h
    obtain ⟨lines, hlines, hjoin⟩ := map_eq_ok_iff.1 h
    -- what is joined can be taken apart again, so the lines shown are those of the text
    have hsame := lines_joinLines hlines
    rw [hjoin] at hsame
    obtain ⟨hends, hjoins⟩ := hset.1 (hsame ▸ hlines)
    exact ⟨hnames, hends, hjoins⟩
  · rintro ⟨hnames, hends, hjoins⟩
    rw [literal_of_names hsteady hnames, hset.2 ⟨hends, hjoins⟩, Except.map, joinLines_lines]

theorem isShownAsIs_iff_names (hjoiner : joiner ∉ t)
    (hshort : ∀ line ∈ t.lines, line.length ≤ width) :
    IsShownAsIs width t ↔ ∀ name ∈ Picture.names t, Picture.ofName? name = none := by
  refine ⟨IsShownAsIs.names, fun hnames => ⟨hnames, ?_, ?_⟩⟩
  · intro line hline hwide
    have := hshort line hline
    omega
  · intro line hline hmem
    exact absurd (mem_of_mem_piecesAt _ (text_of_mem_ofParts line hline) hmem) hjoiner

/-! ## What comes after it -/

theorem prefix_of_prefix_append {s shown more : Text} (hlast : s.getLast? = some ⟨0x0A⟩)
    (hcount : s.count ⟨0x0A⟩ ≤ shown.count ⟨0x0A⟩) (h : s <+: shown ++ more) : s <+: shown := by
  have hor := List.prefix_or_prefix_of_prefix h (List.prefix_append shown more)
  rcases hor with hstarts | ⟨rest, rfl⟩
  · exact hstarts
  · -- the last line of `s` ends behind what is shown
    rw [List.count_append] at hcount
    have hnone : rest.count ⟨0x0A⟩ = 0 := by omega
    cases hrest : rest.getLast? with
    | none =>
      obtain rfl := List.getLast?_eq_none_iff.1 hrest
      simp
    | some r =>
      rw [List.getLast?_append, hrest, Option.some_or] at hlast
      rw [List.count_eq_zero] at hnone
      exact absurd (List.mem_of_getLast? (hrest.trans hlast)) hnone

theorem literal_eq_self_of_prefix (hfits : ∀ line ∈ t.lines, cells line ≤ width)
    (hsteady : IsSteady t) (hlast : t.getLast? = some ⟨0x0A⟩) {shown more : Text}
    (h : literal width t = .ok shown) (hstarts : t <+: shown ++ more) : shown = t := by
  have hstart := prefix_of_prefix_append hlast (count_literal h).1 hstarts
  have hnames := names_of_count_le h (hstart.sublist.count_le _)
  rw [literal_of_names hsteady hnames] at h
  obtain ⟨lines, hlines, rfl⟩ := map_eq_ok_iff.1 h
  exact (hstart.eq_of_length_le
    (length_joinLines_le hfits (fun r hr => (hsteady r hr).2) hlines)).symm

variable {rest : List (Except CutError Text)}

theorem showing_of_prefix (hlast : t.getLast? = some ⟨0x0A⟩)
    (h : t <+: (Showing.ofList (literal width t :: rest)).text) :
    ∃ shown more, literal width t = .ok shown ∧ t <+: shown ++ more := by
  cases hshown : literal width t with
  | error e =>
    rw [hshown] at h
    rw [List.prefix_nil.1 h] at hlast
    cases hlast
  | ok shown =>
    rw [hshown] at h
    exact ⟨shown, (Showing.ofList rest).text, rfl, h⟩

/-- Text whose last line is ended stands at the beginning of what is shown if it is shown as it
is, and only then. -/
theorem prefix_showing_iff (hfits : ∀ line ∈ t.lines, cells line ≤ width) (hsteady : IsSteady t)
    (hlast : t.getLast? = some ⟨0x0A⟩) :
    t <+: (Showing.ofList (literal width t :: rest)).text ↔ IsShownAsIs width t := by
  rw [← literal_eq_self_iff hfits hsteady]
  constructor
  · intro h
    obtain ⟨shown, more, hshown, hstarts⟩ := showing_of_prefix hlast h
    rw [hshown, literal_eq_self_of_prefix hfits hsteady hlast hshown hstarts]
  · intro h
    rw [h]
    exact List.prefix_append t _

theorem not_prefix_showing (hlast : t.getLast? = some ⟨0x0A⟩)
    (hknown : ∃ name ∈ Picture.names t, Picture.ofName? name ≠ none) :
    ¬t <+: (Showing.ofList (literal width t :: rest)).text := by
  intro h
  obtain ⟨shown, more, hshown, hstarts⟩ := showing_of_prefix hlast h
  obtain ⟨name, hname, hpicture⟩ := hknown
  have hstart := prefix_of_prefix_append hlast (count_literal hshown).1 hstarts
  exact hpicture (names_of_count_le hshown (hstart.sublist.count_le _) name hname)

end Nomenclator.Console
