import Mathlib.Data.List.SplitBy
import Mathlib.Data.List.TakeWhile
import Nomenclator.Rename.Basic

/-!
# Runs

A text falls apart into runs of word characters and the gaps between them. The scan for names that
consist of word characters takes whole runs or nothing.
-/

namespace Nomenclator

/-! ## Runs of a text -/

/-- Do two neighbours belong to the same run? -/
def sameKind (a b : Rune) : Bool := a.isWord == b.isWord

/-- The maximal runs of word characters and the gaps between them, in order. -/
def runs (t : Text) : List Text := t.splitBy sameKind

/-- A stretch of word characters only, or of no word character. -/
def Uniform (kind : Bool) (w : Text) : Prop := w ≠ [] ∧ ∀ r ∈ w, r.isWord = kind

/-- The text `t` does not go on with a character of this kind. -/
def Ends (kind : Bool) (t : Text) : Prop := ∀ r ∈ t.head?, r.isWord ≠ kind

theorem runs_nil : runs [] = [] := rfl

theorem isChain_sameKind {kind : Bool} {w : Text} (h : ∀ r ∈ w, r.isWord = kind) :
    w.IsChain fun a b => sameKind a b := by
  induction w with
  | nil => exact List.isChain_nil
  | cons r rest ih =>
    refine List.isChain_cons.2 ⟨?_, ih fun x hx => h x (List.mem_cons_of_mem _ hx)⟩
    intro next hnext
    have hr := h r List.mem_cons_self
    have hn := h next (List.mem_cons_of_mem _ (List.mem_of_mem_head? hnext))
    simp [sameKind, hr, hn]

theorem ends_append_iff {kind other : Bool} {w t : Text} (hw : Uniform kind w) :
    Ends other (w ++ t) ↔ kind ≠ other := by
  obtain ⟨r, rest, rfl⟩ := List.exists_cons_of_ne_nil hw.1
  simp [Ends, hw.2 r List.mem_cons_self]

theorem runs_append {kind : Bool} {w t : Text} (hw : Uniform kind w) (ht : Ends kind t) :
    runs (w ++ t) = w :: runs t := by
  unfold runs
  rw [List.splitBy_append, List.splitBy_of_isChain hw.1 (isChain_sameKind hw.2),
    List.singleton_append]
  intro x hx y hy
  have h1 := hw.2 x (List.mem_of_mem_getLast? hx)
  have h2 := ht y hy
  simpa [sameKind, h1] using fun h => h2 h.symm

theorem exists_run {t : Text} (h : t ≠ []) :
    ∃ kind w rest, t = w ++ rest ∧ Uniform kind w ∧ Ends kind rest := by
  obtain ⟨r, s, rfl⟩ := List.exists_cons_of_ne_nil h
  let ofKind (x : Rune) : Bool := x.isWord == r.isWord
  refine ⟨r.isWord, (r :: s).takeWhile ofKind, (r :: s).dropWhile ofKind,
    List.takeWhile_append_dropWhile.symm, ⟨by simp [ofKind], ?_⟩, ?_⟩
  · intro x hx
    simpa [ofKind] using List.mem_takeWhile_imp hx
  · intro x hx
    have := List.head?_dropWhile_not ofKind (r :: s)
    rw [Option.mem_def.1 hx] at this
    simpa [ofKind] using this

/-- Induction over a text, run by run. -/
theorem runs_induction {P : Text → Prop} (nil : P [])
    (run : ∀ kind w t, Uniform kind w → Ends kind t → P t → P (w ++ t)) (t : Text) : P t := by
  by_cases h : t = []
  · exact h ▸ nil
  · obtain ⟨kind, w, rest, ht, hw, hrest⟩ := exists_run h
    have hlen : rest.length < t.length := by
      have := List.length_pos_iff.2 hw.1
      rw [ht, List.length_append]
      omega
    exact ht ▸ run kind w rest hw hrest (runs_induction nil run rest)
termination_by t.length

end Nomenclator
