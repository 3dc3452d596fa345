import Mathlib.Data.List.Dedup
import Nomenclator.Proofs.Listing.Inputs

/-!
# What decides about a search

The search finds what its arguments stand for, in an order of its own, so two trees in which the
same listings are below the arguments make no difference to it.
-/

namespace Nomenclator

/-! ## The order of paths -/

theorem Path.le_antisymm {p q : Path} (hroot : p.root = q.root) (hpq : p.le q = true)
    (hqp : q.le p = true) : p = q := by
  unfold Path.le at hpq hqp
  rw [Text.leList_iff_codes] at hpq hqp
  have hcode : Function.Injective Rune.code := fun a b hab => congrArg Rune.mk hab
  have hkeys : p.sortKey = q.sortKey := hcode.list_map.list_map (hpq.antisymm hqp)
  obtain ⟨root, names⟩ := p
  obtain ⟨root', names'⟩ := q
  obtain rfl : root = root' := hroot
  unfold Path.sortKey at hkeys
  dsimp only at hkeys
  split at hkeys
  · rw [hkeys]
  · rw [(List.cons.inj hkeys).2]

namespace Listing

open FileTree

variable {tree : FileTree} {base : Location} {paths : List Path}

/-! ## Sorted parts -/

/-- Sorted paths with one root are kept as if none of them came twice. -/
theorem dropRepeated_dedup {files : List Path} (rest : List Path) (seen : List Location)
    (hsorted : files.Pairwise fun f g => f.le g = true)
    (hroots : ∀ f ∈ files, ∀ g ∈ files, f.root = g.root) :
    dropRepeated tree base seen (files.dedup ++ rest) =
      dropRepeated tree base seen (files ++ rest) := by
  induction files generalizing seen with
  | nil => rfl
  | cons f files ih =>
    obtain ⟨hfirst, hrest⟩ := List.pairwise_cons.1 hsorted
    have hfiles := fun seen => ih seen hrest fun g hg g' hg' =>
      hroots g (List.mem_cons_of_mem f hg) g' (List.mem_cons_of_mem f hg')
    by_cases hmem : f ∈ files
    · rw [List.dedup_cons_of_mem hmem, hfiles]
      cases files with
      | nil => simp at hmem
      | cons g files =>
        -- in sorted paths the same one comes right behind
        obtain rfl : f = g := by
          rcases List.mem_cons.1 hmem with heq | hlater
          · exact heq
          · exact Path.le_antisymm (hroots f List.mem_cons_self g (by simp))
              (hfirst g List.mem_cons_self) ((List.pairwise_cons.1 hrest).1 f hlater)
        simp only [List.cons_append, dropRepeated_cons, List.mem_cons, true_or, if_true]
        split <;> rfl
    · rw [List.dedup_cons_of_notMem hmem, List.cons_append, List.cons_append, dropRepeated_cons,
        dropRepeated_cons, hfiles, hfiles]

theorem dropRepeated_append_congr {more more' : List Path}
    (h : ∀ seen, dropRepeated tree base seen more = dropRepeated tree base seen more')
    (files : List Path) (seen : List Location) :
    dropRepeated tree base seen (files ++ more) = dropRepeated tree base seen (files ++ more') := by
  induction files generalizing seen with
  | nil => exact h seen
  | cons f files ih => rw [List.cons_append, List.cons_append, dropRepeated_cons,
      dropRepeated_cons, ih, ih]

theorem dropRepeated_congr {tree' : FileTree}
    (h : ∀ p ∈ paths, location tree' base p = location tree base p) (seen : List Location) :
    dropRepeated tree' base seen paths = dropRepeated tree base seen paths := by
  induction paths generalizing seen with
  | nil => rfl
  | cons path rest ih =>
    obtain ⟨hpath, hrest⟩ := List.forall_mem_cons.1 h
    rw [dropRepeated_cons, dropRepeated_cons, hpath, ih hrest, ih hrest]

variable {path : Path} {files files' : List Path}

theorem Part.sorted (h : Part tree base path files) : files.Pairwise fun f g => f.le g = true := by
  cases h with
  | file _ => exact List.pairwise_singleton _ _
  | directory _ hsorted _ => exact hsorted

theorem Part.root_eq (h : Part tree base path files) : ∀ f ∈ files, f.root = path.root := by
  intro f hf
  rcases (mem_part_iff h).1 hf with ⟨rfl, -⟩ | ⟨_, _, _, _, _, _, rfl, _⟩ <;> rfl

theorem Part.dedup_eq (h : Part tree base path files) (h' : Part tree base path files') :
    files.dedup = files'.dedup := by
  refine List.Perm.eq_of_pairwise (fun f g hf hg hfg hgf => ?_)
    (h.sorted.sublist (List.dedup_sublist _)) (h'.sorted.sublist (List.dedup_sublist _))
    ((List.perm_ext_iff_of_nodup (List.nodup_dedup _) (List.nodup_dedup _)).2 fun f => ?_)
  · have hf' := h.root_eq f (List.mem_dedup.1 hf)
    have hg' := h'.root_eq g (List.mem_dedup.1 hg)
    exact Path.le_antisymm (hf'.trans hg'.symm) hfg hgf
  · rw [List.mem_dedup, List.mem_dedup, mem_part_iff h, mem_part_iff h']

theorem dropRepeated_parts {parts parts' : List (List Path)}
    (h : List.Forall₂ (Part tree base) paths parts)
    (h' : List.Forall₂ (Part tree base) paths parts') (seen : List Location) :
    dropRepeated tree base seen parts.flatten = dropRepeated tree base seen parts'.flatten := by
  have hroots {path files} (hpart : Part tree base path files) :
      ∀ f ∈ files, ∀ g ∈ files, f.root = g.root :=
    fun f hf g hg => (hpart.root_eq f hf).trans (hpart.root_eq g hg).symm
  induction h generalizing parts' seen with
  | nil =>
    cases h'
    rfl
  | cons hpart _ ih =>
    cases h' with
    | cons hpart' hrest' =>
      rw [List.flatten_cons, List.flatten_cons,
        ← dropRepeated_dedup _ _ hpart.sorted (hroots hpart), hpart.dedup_eq hpart',
        dropRepeated_dedup _ _ hpart'.sorted (hroots hpart')]
      exact dropRepeated_append_congr (ih hrest') _ _

/-! ## What decides about a search -/

theorem exists_parts_of_discover {found : List Path}
    (h : (discover tree base defaultExtensions paths).1 = .ok found) :
    ¬ComesToLimit tree base paths ∧ (∀ p ∈ paths, tree.IsUsable base p) ∧
      ∃ parts, List.Forall₂ (Part tree base) paths parts ∧
        found = dropRepeated tree base [] parts.flatten := by
  have hpaths := expansions_expandAll tree base paths
  rw [discover] at h
  dsimp only at h
  generalize (expandAll tree base defaultExtensions paths).1 = result at hpaths h
  cases hpaths with
  | obstructed _ => simp [Except.map] at h
  | missing _ _ _ _ => simp [Except.map] at h
  | parts hfree husable hparts => exact ⟨hfree, husable, _, hparts, (Except.ok.inj h).symm⟩

theorem exists_parts_of_usable (hfree : ¬ComesToLimit tree base paths)
    (husable : ∀ p ∈ paths, tree.IsUsable base p) :
    ∃ parts, List.Forall₂ (Part tree base) paths parts ∧
      (discover tree base defaultExtensions paths).1 =
        .ok (dropRepeated tree base [] parts.flatten) := by
  have hpaths := expansions_expandAll tree base paths
  rw [discover]
  dsimp only
  generalize (expandAll tree base defaultExtensions paths).1 = result at hpaths ⊢
  cases hpaths with
  | obstructed _ h => exact absurd h hfree
  | @missing _ _ path _ hsplit _ hpath =>
    exact absurd (husable path (hsplit ▸ by simp)) hpath
  | parts _ _ hparts => exact ⟨_, hparts, rfl⟩

theorem discover_of_comesToLimit (h : ComesToLimit tree base paths) :
    ∃ escape, IsLimit escape ∧
      (discover tree base defaultExtensions paths).1 = .error (.escaped escape) := by
  have hpaths := expansions_expandAll tree base paths
  rw [discover]
  dsimp only
  generalize (expandAll tree base defaultExtensions paths).1 = result at hpaths ⊢
  cases hpaths with
  | obstructed hlimit _ => exact ⟨_, hlimit, rfl⟩
  | missing hfree _ _ _ => exact absurd h hfree
  | parts hfree _ _ => exact absurd h hfree

theorem comesToLimit_iff (husable : ∀ p ∈ paths, tree.IsUsable base p) :
    ComesToLimit tree base paths ↔ ∃ p ∈ paths, IsObstructed tree base p := by
  constructor
  · intro h
    induction h with
    | here h => exact ⟨_, List.mem_cons_self, h⟩
    | later _ _ ih =>
      obtain ⟨p, hp, hobstructed⟩ := ih (List.forall_mem_cons.1 husable).2
      exact ⟨p, List.mem_cons_of_mem _ hp, hobstructed⟩
  · rintro ⟨p, hp, hobstructed⟩
    induction paths with
    | nil => simp at hp
    | cons path rest ih =>
      obtain ⟨hpath, hrest⟩ := List.forall_mem_cons.1 husable
      rcases List.mem_cons.1 hp with rfl | hp
      · exact .here hobstructed
      · exact .later hpath (ih hrest hp)

theorem exists_listingBelow (hdirectories : ∀ path ∈ paths, tree.HasDirectory base path)
    {file : Path} (h : IsInput tree base paths file) :
    ∃ path ∈ paths, IsListingBelow tree base path file := by
  cases h with
  | named hmem hfile => exact absurd hfile (not_hasFile_of_hasDirectory (hdirectories _ hmem))
  | below hmem hbelow => exact ⟨_, hmem, hbelow⟩

section

variable {tree' : FileTree} (hdirectories : ∀ path ∈ paths, tree.HasDirectory base path)
  (hdirectories' : ∀ path ∈ paths, tree'.HasDirectory base path)
  (hbelow : ∀ path file, IsListingBelow tree' base path file ↔ IsListingBelow tree base path file)

include hdirectories hdirectories' hbelow

theorem parts_congr {parts : List (List Path)} (h : List.Forall₂ (Part tree' base) paths parts) :
    List.Forall₂ (Part tree base) paths parts := by
  induction h with
  | nil => exact .nil
  | cons hpart _ ih =>
    obtain ⟨hpath, hrest⟩ := List.forall_mem_cons.1 hdirectories
    obtain ⟨hpath', hrest'⟩ := List.forall_mem_cons.1 hdirectories'
    refine .cons ?_ (ih hrest hrest')
    cases hpart with
    | file hfile => exact absurd hfile (not_hasFile_of_hasDirectory hpath')
    | directory _ hsorted hmem =>
      exact .directory hpath hsorted fun f => (hmem f).trans (hbelow _ f)

/-- A search through directories finds the same in another tree where the same listings are below
them, and nothing is in the way. -/
theorem discover_congr (hfree : ∀ path ∈ paths, ¬IsObstructed tree' base path)
    (hlocation : ∀ path file, IsListingBelow tree base path file →
      location tree' base file = location tree base file)
    {found : List Path} (h : (discover tree base defaultExtensions paths).1 = .ok found) :
    (discover tree' base defaultExtensions paths).1 = .ok found := by
  have husable : ∀ p ∈ paths, tree'.IsUsable base p := fun p hp => .inl (hdirectories' p hp)
  have hshort : ¬ComesToLimit tree' base paths := by
    rw [comesToLimit_iff husable]
    rintro ⟨p, hp, hobstructed⟩
    exact hfree p hp hobstructed
  obtain ⟨-, -, parts, hparts, rfl⟩ := exists_parts_of_discover h
  obtain ⟨parts', hparts', hfound⟩ := exists_parts_of_usable hshort husable
  have hsame := parts_congr hdirectories hdirectories' hbelow hparts'
  have hlocations : ∀ p ∈ parts'.flatten, location tree' base p = location tree base p := by
    intro p hp
    obtain ⟨path, -, hpath⟩ := exists_listingBelow hdirectories ((mem_parts_iff hsame).1 hp)
    exact hlocation path p hpath
  rw [hfound, dropRepeated_congr hlocations, dropRepeated_parts hsame hparts]

end

end Listing

end Nomenclator
