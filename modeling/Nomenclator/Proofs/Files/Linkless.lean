import Nomenclator.Proofs.Files.Creation
import Nomenclator.Proofs.Files.Questions

/-!
# Trees without links

Where there are no links, a walk along some names is a walk along the first of them and then, from
where that ends, along the others. So the last name of a path is the last name of what it leads to.
-/

namespace Nomenclator

namespace FileTree

def HasNoLinks (tree : FileTree) : Prop := ∀ l target, tree.node? l ≠ some (.link target)

/-- How a walk goes on with more names from where it has come to. -/
def onward (tree : FileTree) (follow : Bool) (links : Nat) (names : List Text) :
    Place → Except FileError Place
  | .node location .directory => tree.walk follow links location names
  | .node _ _ => .error .notDirectory
  | .free _ => .error .missing

variable {tree tree' : FileTree} {follow follow' : Bool} {links links' : Nat}
  {directory base : Location} {names more : List Text} {name : Text} {p : Path}

theorem mem_nodes_of_node? {l : Location} {node : Node} (h : tree.node? l = some node) :
    (l = [] ∧ node = .directory) ∨ (l, node) ∈ tree.nodes := by
  unfold node? at h
  split at h
  · next hroot => exact .inl ⟨hroot, (Option.some.inj h).symm⟩
  · obtain ⟨entry, hentry, rfl⟩ := Option.map_eq_some_iff.1 h
    have hlocation : entry.1 = l := by simpa using List.find?_some hentry
    exact .inr (hlocation ▸ List.mem_of_find?_eq_some hentry)

theorem hasNoLinks_of_nodes (h : ∀ entry ∈ tree.nodes, ∀ target, entry.2 ≠ .link target) :
    tree.HasNoLinks := by
  intro l target hnode
  rcases mem_nodes_of_node? hnode with ⟨-, hlink⟩ | hmem
  · simp at hlink
  · exact h _ hmem target rfl

theorem SameInner.hasNoLinks (h : SameInner tree tree') (hlinks : tree.HasNoLinks) :
    tree'.HasNoLinks :=
  fun l target hnode => hlinks l target (h.symm.node?_inner hnode (by simp))

/-! ## Walks in two parts -/

theorem walk_append (hlinks : tree.HasNoLinks) (hmore : more ≠ []) :
    tree.walk follow links directory (names ++ more) =
      (tree.walk follow' links' directory names).bind (tree.onward follow links more) := by
  fun_induction FileTree.walk tree follow' links' directory names with
  | case1 => rfl
  | case2 _ _ _ ih =>
    rw [List.cons_append, walk, if_pos rfl]
    exact ih
  | case3 _ _ _ hdot ih =>
    rw [List.cons_append, walk, if_neg hdot, if_pos rfl]
    exact ih
  | case4 _ _ _ _ hdot hdots hlong =>
    rw [List.cons_append, walk, if_neg hdot, if_neg hdots, if_pos hlong]
    rfl
  | case5 _ _ _ hdot hdots hshort _ hnode
  | case6 _ _ _ _ hdot hdots hshort _ hnode
  | case7 _ _ _ hdot hdots hshort _ _ hnode
  | case8 _ _ _ _ hdot hdots hshort _ _ hnode =>
    -- the walk cannot go on from a file or a free name
    rw [List.cons_append, walk_name hdot hdots hshort, hnode]
    exact if_neg (by simp [hmore])
  | case9 _ _ _ _ hdot hdots hshort _ hnode ih =>
    rw [List.cons_append, walk_name hdot hdots hshort, hnode]
    exact ih
  | case10 _ _ _ _ _ _ _ _ _ hnode => exact absurd hnode (hlinks _ _)
  | case11 _ _ _ _ _ _ _ _ hnode => exact absurd hnode (hlinks _ _)
  | case12 _ _ _ _ _ _ _ _ hnode => exact absurd hnode (hlinks _ _)

theorem walk_single (hlinks : tree.HasNoLinks) (hdot : name ≠ ".") (hdots : name ≠ "..")
    (hshort : ¬isNameTooLong name = true) :
    ∃ place, tree.walk follow links directory [name] = .ok place ∧
      place.location = directory ++ [name] := by
  rw [walk_name hdot hdots hshort]
  cases hnode : tree.node? (directory ++ [name]) with
  | none => exact ⟨_, if_pos rfl, rfl⟩
  | some node =>
    cases node with
    | file bytes => exact ⟨_, if_pos rfl, rfl⟩
    | directory => exact ⟨.node (directory ++ [name]) .directory, by simp [walk], rfl⟩
    | link target => exact absurd hnode (hlinks _ _)

theorem walk_concat_eq_ok (hlinks : tree.HasNoLinks) (hdot : name ≠ ".") (hdots : name ≠ "..")
    {place : Place} (h : tree.walk follow links directory (names ++ [name]) = .ok place) :
    ∃ above, tree.walk follow' links' directory names = .ok (.node above .directory) ∧
      ¬isNameTooLong name = true ∧ place.location = above ++ [name] := by
  rw [walk_append hlinks (List.cons_ne_nil _ _)] at h
  rcases hwalk : tree.walk follow' links' directory names with _ | ⟨above, _ | _ | _⟩ | _
  case ok.node.directory =>
    rw [hwalk] at h
    have hlast : tree.walk follow links above [name] = .ok place := h
    have hshort : ¬isNameTooLong name = true := by
      intro hlong
      rw [walk, if_neg hdot, if_neg hdots, if_pos hlong] at hlast
      simp at hlast
    obtain ⟨place', hplace', hlocation⟩ := walk_single hlinks hdot hdots hshort
    obtain rfl : place' = place := Except.ok.inj (hplace'.symm.trans hlast)
    exact ⟨above, rfl, hshort, hlocation⟩
  all_goals
    rw [hwalk] at h
    simp [Except.bind, onward] at h

/-! ## Names and paths that are too long -/

theorem isTooLong_iff :
    tree.IsTooLong base p ↔ refusal? p = some .nameTooLong ∨
      refusal? p = none ∧
        tree.walk true linkLimit (start base p) p.names = .error .nameTooLong := by
  have hlookup : tree.IsTooLong base p ↔ tree.find base p true = .error .nameTooLong := by
    unfold IsTooLong lookup
    split <;> simp_all
  rw [hlookup, find]
  cases refusal? p <;> simp

/-- If the last name of a walk is not too long, then one before it is, and every other walk along
those comes to it too. -/
theorem walk_nameTooLong_of_concat (hlinks : tree.HasNoLinks) (hdot : name ≠ ".")
    (hdots : name ≠ "..") (hshort : ¬isNameTooLong name = true)
    (h : tree.walk follow links directory (names ++ [name]) = .error .nameTooLong)
    (hmore : more ≠ []) :
    tree.walk follow' links' directory (names ++ more) = .error .nameTooLong := by
  rw [walk_append hlinks (List.cons_ne_nil _ _)] at h
  rw [walk_append hlinks hmore]
  rcases hwalk : tree.walk follow links directory names with error | ⟨above, _ | _ | _⟩ | _
  case error =>
    rw [hwalk] at h
    exact h
  case ok.node.directory =>
    rw [hwalk] at h
    have hlast : tree.walk follow links above [name] = .error .nameTooLong := h
    obtain ⟨place, hplace, -⟩ := walk_single hlinks hdot hdots hshort
    exact absurd (hplace.symm.trans hlast) (by simp)
  all_goals
    rw [hwalk] at h
    simp [Except.bind, onward] at h

/-- The same names are too long in trees that differ in files only. -/
theorem walk_nameTooLong (h : SameInner tree tree')
    (hwalk : tree.walk follow links directory names = .error .nameTooLong) :
    tree'.walk follow links directory names = .error .nameTooLong := by
  fun_induction FileTree.walk tree follow links directory names with
  | case2 _ _ _ ih =>
    rw [walk, if_pos rfl]
    exact ih hwalk
  | case3 _ _ _ hdot ih =>
    rw [walk, if_neg hdot, if_pos rfl]
    exact ih hwalk
  | case4 _ _ _ _ hdot hdots hlong => rw [walk, if_neg hdot, if_neg hdots, if_pos hlong]
  | case9 _ _ _ _ hdot hdots hshort _ hnode ih =>
    rw [walk_name hdot hdots hshort, h.node?_inner hnode (by simp)]
    exact ih hwalk
  | case12 _ _ _ hdot hdots hshort _ _ hnode hlast links ih =>
    rw [walk_name hdot hdots hshort, h.node?_inner hnode (by simp)]
    simp only [if_neg hlast]
    exact ih hwalk
  | _ => simp at hwalk

theorem SameInner.isTooLong (h : SameInner tree tree') (hlong : tree.IsTooLong base p) :
    tree'.IsTooLong base p :=
  isTooLong_iff.2 ((isTooLong_iff.1 hlong).imp id fun ⟨hnone, hwalk⟩ =>
    ⟨hnone, walk_nameTooLong h hwalk⟩)

end FileTree

end Nomenclator
