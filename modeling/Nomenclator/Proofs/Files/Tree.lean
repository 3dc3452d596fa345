import Nomenclator.Files.Tree

/-!
# Trees that change

What a tree holds after a node was put into it, and which walks do not notice: a walk that ends
elsewhere never looks at a file that was written or at a name that was free.
-/

namespace Nomenclator

/-- Where a walk has come to. -/
def Place.location : Place → Location
  | .node location _ => location
  | .free location => location

namespace FileTree

/-! ## Putting nodes -/

theorem node?_root (tree : FileTree) : tree.node? [] = some .directory := by
  unfold node?
  rw [if_pos rfl]

theorem node?_put {location : Location} (h : location ≠ []) (tree : FileTree) (node : Node)
    (l : Location) :
    (tree.put location node).node? l = if l = location then some node else tree.node? l := by
  by_cases hroot : l = []
  · subst hroot
    rw [node?_root, node?_root, if_neg (Ne.symm h)]
  · unfold node? put
    rw [if_neg hroot, if_neg hroot]
    split
    · next hany =>
      -- the node takes the place of the one that was there, and all others keep theirs
      have hkeys : (fun entry : Location × Node => entry.1 == l) ∘
          (fun entry => if entry.1 = location then (location, node) else entry) =
            fun entry => entry.1 == l := by
        funext entry
        simp only [Function.comp]
        split
        · next heq => rw [heq]
        · rfl
      simp only [List.find?_map, hkeys, Option.map_map]
      split
      · next heq =>
        subst heq
        cases hfind : tree.nodes.find? fun entry => entry.1 == l with
        | none =>
          rw [List.find?_eq_none] at hfind
          obtain ⟨entry, hmem, hentry⟩ := List.any_eq_true.1 hany
          exact absurd hentry (hfind entry hmem)
        | some entry =>
          have hentry : entry.1 = l := by simpa using List.find?_some hfind
          simp [hentry]
      · next hne =>
        cases hfind : tree.nodes.find? fun entry => entry.1 == l with
        | none => rfl
        | some entry =>
          have hentry : entry.1 = l := by simpa using List.find?_some hfind
          simp [hentry, hne]
    · next hany =>
      simp only [List.find?_append]
      split
      · next heq =>
        subst heq
        have hnone : (tree.nodes.find? fun entry => entry.1 == l) = none := by
          rw [List.find?_eq_none]
          intro entry hmem hentry
          exact hany (List.any_eq_true.2 ⟨entry, hmem, hentry⟩)
        simp [hnone]
      · next hne =>
        have hlast : [(location, node)].find? (fun entry => entry.1 == l) = none := by
          simp [Ne.symm hne]
        rw [hlast, Option.or_none]

/-- The same node at every location but those that have changed. -/
def AgreesOff (changed : Location → Prop) (tree tree' : FileTree) : Prop :=
  ∀ l, ¬changed l → tree'.node? l = tree.node? l

/-- Nothing but files that are not locked and free names has changed. -/
def OnlyLeaves (changed : Location → Prop) (tree : FileTree) : Prop :=
  ∀ l, changed l → tree.node? l = none ∨ ∃ bytes, tree.node? l = some (.file (.bytes bytes))

/-! ## Refusals -/

variable {p : Path}

theorem refusal?_of_isSystemText (h : ∀ name ∈ p.names, isSystemText name = true) :
    refusal? p = if pathLimit < systemLength p.toText then some .nameTooLong else none := by
  unfold refusal?
  rw [List.all_eq_true.2 h, Bool.not_true, if_neg Bool.false_ne_true, isPathTooLong]
  simp only [decide_eq_true_eq]

theorem isSystemText_of_refusal?_eq_none (h : refusal? p = none) :
    ∀ name ∈ p.names, isSystemText name = true := by
  unfold refusal? at h
  split at h
  · simp at h
  · next hall =>
    rw [Bool.not_eq_true, Bool.not_eq_false'] at hall
    exact List.all_eq_true.1 hall

theorem systemLength_of_refusal?_eq_none (h : refusal? p = none) :
    systemLength p.toText ≤ pathLimit := by
  rw [refusal?_of_isSystemText (isSystemText_of_refusal?_eq_none h)] at h
  split at h
  · simp at h
  · next hshort => exact Nat.not_lt.1 hshort

/-! ## Walks that do not notice -/

/-- One name of a walk that is neither a dot nor two. -/
theorem walk_name {name : Text} (hdot : name ≠ ".") (hdots : name ≠ "..")
    (hshort : ¬isNameTooLong name = true) (tree : FileTree) (follow : Bool) (links : Nat)
    (directory : Location) (rest : List Text) :
    tree.walk follow links directory (name :: rest) =
      match tree.node? (directory ++ [name]) with
      | none => if rest = [] then .ok (.free (directory ++ [name])) else .error .missing
      | some (.file content) =>
        if rest = [] then .ok (.node (directory ++ [name]) (.file content))
        else .error .notDirectory
      | some .directory => tree.walk follow links (directory ++ [name]) rest
      | some (.link target) =>
        if rest = [] ∧ !follow then .ok (.node (directory ++ [name]) (.link target))
        else
          match links with
          | 0 => .error .tooManyLinks
          | links + 1 =>
            tree.walk follow links (linkBase directory target) (Path.namesIn target ++ rest) := by
  rw [walk, if_neg hdot, if_neg hdots]
  exact if_neg hshort

variable {changed : Location → Prop} {tree tree' : FileTree}

theorem AgreesOff.node?_of_inner (hagree : AgreesOff changed tree tree')
    (hleaves : OnlyLeaves changed tree) {l : Location} {node : Node} (h : tree.node? l = some node)
    (hinner : ∀ bytes, node ≠ .file (.bytes bytes)) : tree'.node? l = some node := by
  rw [hagree l ?_, h]
  intro hchanged
  rcases hleaves l hchanged with hnone | ⟨bytes, hfile⟩
  · rw [hnone] at h
    exact absurd h (by simp)
  · rw [hfile] at h
    injection h with h
    exact hinner bytes h.symm

/-- A walk is the same in both trees if it does not end where something has changed. On its way it
meets directories and links alone. -/
theorem walk_of_agreesOff (hagree : AgreesOff changed tree tree')
    (hleaves : OnlyLeaves changed tree) {follow : Bool} {links : Nat} {directory : Location}
    {names : List Text} {place : Place}
    (h : tree.walk follow links directory names = .ok place) (hplace : ¬changed place.location) :
    tree'.walk follow links directory names = .ok place := by
  -- only the place where a walk ends can have changed: directories and links are never leaves
  fun_induction FileTree.walk tree follow links directory names with
  | case1 =>
    rw [walk]
    exact h
  | case2 links directory rest ih =>
    rw [walk, if_pos rfl]
    exact ih h
  | case3 links directory rest hdot ih =>
    rw [walk, if_neg hdot, if_pos rfl]
    exact ih h
  | case5 links directory name hdot hdots hshort location hnode =>
    injection h with h
    subst h
    have hsame : tree'.node? (directory ++ [name]) = _ := (hagree location hplace).trans hnode
    rw [walk_name hdot hdots hshort, hsame]
    rfl
  | case7 links directory name hdot hdots hshort location content hnode =>
    injection h with h
    subst h
    have hsame : tree'.node? (directory ++ [name]) = _ := (hagree location hplace).trans hnode
    rw [walk_name hdot hdots hshort, hsame]
    rfl
  | case9 links directory name rest hdot hdots hshort location hnode ih =>
    rw [walk_name hdot hdots hshort, hagree.node?_of_inner hleaves hnode (by simp)]
    exact ih h
  | case10 links directory name rest hdot hdots hshort location target hnode hlast =>
    rw [walk_name hdot hdots hshort, hagree.node?_of_inner hleaves hnode (by simp)]
    simp only [if_pos hlast]
    exact h
  | case12 directory name rest hdot hdots hshort location target hnode hlast links ih =>
    rw [walk_name hdot hdots hshort, hagree.node?_of_inner hleaves hnode (by simp)]
    simp only [if_neg hlast]
    exact ih h
  | _ => simp at h

variable {base : Location}

theorem find_eq_ok_iff {follow : Bool} {place : Place} :
    tree.find base p follow = .ok place ↔
      refusal? p = none ∧
        tree.walk follow linkLimit (start base p) p.names = .ok place := by
  unfold find
  cases refusal? p <;> simp

theorem find_of_agreesOff (hagree : AgreesOff changed tree tree')
    (hleaves : OnlyLeaves changed tree) {follow : Bool} {place : Place}
    (h : tree.find base p follow = .ok place) (hplace : ¬changed place.location) :
    tree'.find base p follow = .ok place := by
  rw [find_eq_ok_iff] at h ⊢
  exact ⟨h.1, walk_of_agreesOff hagree hleaves h.2 hplace⟩

theorem lookup_eq_ok_iff {location : Location} {node : Node} :
    tree.lookup base p = .ok (location, node) ↔
      tree.find base p true = .ok (.node location node) := by
  unfold lookup
  split <;> simp_all

theorem read_of_agreesOff (hagree : AgreesOff changed tree tree')
    (hleaves : OnlyLeaves changed tree) {location : Location} {content : Content}
    (h : tree.lookup base p = .ok (location, .file content)) (hlocation : ¬changed location) :
    tree'.read base p = tree.read base p := by
  have hfind := find_of_agreesOff hagree hleaves (lookup_eq_ok_iff.1 h) hlocation
  unfold read
  rw [lookup_eq_ok_iff.2 hfind, h]

/-! ## Opening for writing -/

theorem node?_of_walk_file {follow : Bool} {links : Nat} {directory location : Location}
    {names : List Text} {content : Content}
    (h : tree.walk follow links directory names = .ok (.node location (.file content))) :
    tree.node? location = some (.file content) := by
  fun_induction FileTree.walk tree follow links directory names with
  | case2 _ _ _ ih => exact ih h
  | case3 _ _ _ _ ih => exact ih h
  | case7 links directory name hdot hdots hshort location' content' hnode =>
    injection h with h
    injection h with hlocation hfile
    injection hfile with hfile
    rw [← hlocation, hnode, hfile]
  | case9 _ _ _ _ _ _ _ _ _ ih => exact ih h
  | case12 _ _ _ _ _ _ _ _ _ _ _ ih => exact ih h
  | _ => simp at h

theorem node?_of_walk_free {follow : Bool} {links : Nat} {directory location : Location}
    {names : List Text} (h : tree.walk follow links directory names = .ok (.free location)) :
    tree.node? location = none := by
  fun_induction FileTree.walk tree follow links directory names with
  | case2 _ _ _ ih => exact ih h
  | case3 _ _ _ _ ih => exact ih h
  | case5 links directory name hdot hdots hshort location' hnode =>
    injection h with h
    injection h with hlocation
    rw [← hlocation, hnode]
  | case9 _ _ _ _ _ _ _ _ _ ih => exact ih h
  | case12 _ _ _ _ _ _ _ _ _ _ _ ih => exact ih h
  | _ => simp at h

theorem node?_of_find_file {follow : Bool} {location : Location} {content : Content}
    (h : tree.find base p follow = .ok (.node location (.file content))) :
    tree.node? location = some (.file content) :=
  node?_of_walk_file (find_eq_ok_iff.1 h).2

theorem node?_of_find_free {follow : Bool} {location : Location}
    (h : tree.find base p follow = .ok (.free location)) : tree.node? location = none :=
  node?_of_walk_free (find_eq_ok_iff.1 h).2

theorem openForWriting_eq_ok {overwrite : Bool} {location : Location} {opened : FileTree}
    (h : tree.openForWriting base p overwrite = .ok (location, opened)) :
    opened = tree.put location (.file (.bytes [])) ∧
      (tree.node? location = none ∨
        overwrite = true ∧ ∃ bytes, tree.node? location = some (.file (.bytes bytes))) ∧
      ∃ place, tree.find base p overwrite = .ok place ∧ place.location = location := by
  unfold openForWriting at h
  split at h
  · simp at h
  · next l hfind =>
    injection h with h
    injection h with hlocation hopened
    subst hlocation
    exact ⟨hopened.symm, .inl (node?_of_find_free hfind), _, hfind, rfl⟩
  · next l node hfind =>
    split at h
    · simp at h
    · next hoverwrite =>
      split at h
      · next bytes =>
        injection h with h
        injection h with hlocation hopened
        subst hlocation
        exact ⟨hopened.symm, .inr ⟨by simpa using hoverwrite, bytes, node?_of_find_file hfind⟩, _,
          hfind, rfl⟩
      · simp at h
      · simp at h

theorem openForWriting_of_agreesOff (hagree : AgreesOff changed tree tree')
    (hleaves : OnlyLeaves changed tree) {overwrite : Bool} {location : Location} {opened : FileTree}
    (h : tree.openForWriting base p overwrite = .ok (location, opened))
    (hlocation : ¬changed location) :
    tree'.openForWriting base p overwrite =
      .ok (location, tree'.put location (.file (.bytes []))) := by
  obtain ⟨-, -, place, hfind, hplace⟩ := openForWriting_eq_ok h
  have hfind' := find_of_agreesOff hagree hleaves hfind (hplace ▸ hlocation)
  unfold openForWriting at h ⊢
  rw [hfind] at h
  rw [hfind']
  cases place with
  | free l =>
    obtain rfl : l = location := hplace
    rfl
  | node l node =>
    obtain rfl : l = location := hplace
    simp only at h ⊢
    split at h
    · simp at h
    · next hoverwrite =>
      rw [if_neg hoverwrite]
      split at h
      · rfl
      · simp at h
      · simp at h

/-! ## Straight paths -/

/-- A name that stands for whatever has it. -/
def IsOrdinary (name : Text) : Prop :=
  (name ≠ "." ∧ name ≠ "..") ∧ ¬isNameTooLong name = true

instance (name : Text) : Decidable (IsOrdinary name) := inferInstanceAs (Decidable (_ ∧ _))

/-- Ordinary names that lead from directory to directory, up to the last one. -/
def LeadsOn (tree : FileTree) (directory : Location) : List Text → Prop
  | [] => False
  | name :: rest => IsOrdinary name ∧
    (rest = [] ∨ tree.node? (directory ++ [name]) = some .directory ∧
      LeadsOn tree (directory ++ [name]) rest)

instance decidableLeadsOn (tree : FileTree) :
    ∀ (directory : Location) (names : List Text), Decidable (tree.LeadsOn directory names)
  | _, [] => inferInstanceAs (Decidable False)
  | directory, name :: rest =>
    have := decidableLeadsOn tree (directory ++ [name]) rest
    inferInstanceAs (Decidable (_ ∧ (_ ∨ _ ∧ _)))

/-- The path leads on to the location, and the system takes it. -/
def IsStraight (tree : FileTree) (base : Location) (p : Path) (l : Location) : Prop :=
  start base p ++ p.names = l ∧ refusal? p = none ∧ tree.LeadsOn (start base p) p.names

instance (tree : FileTree) (base : Location) (p : Path) (l : Location) :
    Decidable (tree.IsStraight base p l) := inferInstanceAs (Decidable (_ ∧ _ ∧ _))

theorem LeadsOn.walk_eq {follow : Bool} {links : Nat} {directory : Location} {names : List Text}
    (h : tree.LeadsOn directory names) {place : Place}
    (hplace : match tree.node? (directory ++ names) with
      | none => place = .free (directory ++ names)
      | some node => place = .node (directory ++ names) node ∧
        (follow = true → ∀ target, node ≠ .link target)) :
    tree.walk follow links directory names = .ok place := by
  induction names generalizing directory with
  | nil => exact h.elim
  | cons name rest ih =>
    obtain ⟨⟨⟨hdot, hdots⟩, hshort⟩, hrest⟩ := h
    rw [walk_name hdot hdots hshort]
    rcases hrest with rfl | ⟨hdirectory, hrest⟩
    · cases hnode : tree.node? (directory ++ [name]) with
      | none => simp_all
      | some node =>
        rw [hnode] at hplace
        cases node with
        | file content => simp_all
        | directory => rw [walk, hplace.1]
        | link target => cases follow <;> simp_all
    · rw [hdirectory]
      exact ih hrest (by simpa using hplace)

theorem LeadsOn.walk_node {follow : Bool} {links : Nat} {directory : Location} {names : List Text}
    (h : tree.LeadsOn directory names) {node : Node}
    (hnode : tree.node? (directory ++ names) = some node)
    (hlink : follow = true → ∀ target, node ≠ .link target) :
    tree.walk follow links directory names = .ok (.node (directory ++ names) node) :=
  h.walk_eq (by rw [hnode]; exact ⟨rfl, hlink⟩)

variable {l : Location}

theorem IsStraight.find_node (h : tree.IsStraight base p l) {node : Node}
    (hnode : tree.node? l = some node) {follow : Bool}
    (hlink : follow = true → ∀ target, node ≠ .link target) :
    tree.find base p follow = .ok (.node l node) := by
  obtain ⟨rfl, hrefusal, hleads⟩ := h
  exact find_eq_ok_iff.2 ⟨hrefusal, hleads.walk_node hnode hlink⟩

theorem IsStraight.find_free (h : tree.IsStraight base p l) (hnode : tree.node? l = none)
    (follow : Bool) : tree.find base p follow = .ok (.free l) := by
  obtain ⟨rfl, hrefusal, hleads⟩ := h
  exact find_eq_ok_iff.2 ⟨hrefusal, hleads.walk_eq (by rw [hnode])⟩

theorem IsStraight.lookup (h : tree.IsStraight base p l) {node : Node}
    (hnode : tree.node? l = some node) (hlink : ∀ target, node ≠ .link target) :
    tree.lookup base p = .ok (l, node) :=
  lookup_eq_ok_iff.2 (h.find_node hnode fun _ => hlink)

theorem IsStraight.read (h : tree.IsStraight base p l) {bytes : Utf8.Bytes}
    (hnode : tree.node? l = some (.file (.bytes bytes))) : tree.read base p = .ok bytes := by
  rw [FileTree.read, h.lookup hnode (by simp)]

theorem IsStraight.pathExists (h : tree.IsStraight base p l) (hnode : tree.node? l = none) :
    tree.pathExists base p = .ok false := by
  rw [FileTree.pathExists, FileTree.lookup, h.find_free hnode true]
  rfl

theorem IsStraight.open_free (h : tree.IsStraight base p l) (hnode : tree.node? l = none)
    (overwrite : Bool) :
    tree.openForWriting base p overwrite = .ok (l, tree.put l (.file (.bytes []))) := by
  rw [openForWriting, h.find_free hnode overwrite]

theorem IsStraight.open_over (h : tree.IsStraight base p l)
    (hnode : tree.node? l = none ∨ ∃ bytes, tree.node? l = some (.file (.bytes bytes))) :
    tree.openForWriting base p true = .ok (l, tree.put l (.file (.bytes []))) := by
  rcases hnode with hnone | ⟨bytes, hfile⟩
  · exact h.open_free hnone true
  · rw [openForWriting, h.find_node hfile (by simp)]
    rfl

/-- A name in the base itself. -/
def here (name : Text) : Path := ⟨.relative, [name]⟩

/-- One name leads on in any tree. -/
theorem isStraight_of_names {name : Text} (hnames : p.names = [name])
    (h : IsOrdinary name ∧ refusal? p = none) (tree : FileTree) (base : Location) :
    tree.IsStraight base p (start base p ++ [name]) := by
  refine ⟨by rw [hnames], h.2, ?_⟩
  rw [hnames]
  exact ⟨h.1, .inl rfl⟩

theorem isStraight_here {name : Text} (h : IsOrdinary name ∧ refusal? (here name) = none)
    (tree : FileTree) : tree.IsStraight [] (here name) [name] :=
  isStraight_of_names rfl h tree []

/-! ## Writing -/

theorem ne_root_of_file {location : Location} {bytes : Utf8.Bytes}
    (h : tree.node? location = some (.file (.bytes bytes))) : location ≠ [] := by
  rintro rfl
  rw [node?_root] at h
  simp at h

theorem node?_writeAt_of_ne {location l : Location} (h : l ≠ location) (offset : Nat)
    (bytes : Utf8.Bytes) (tree : FileTree) :
    (tree.writeAt location offset bytes).node? l = tree.node? l := by
  unfold writeAt
  split
  · rfl
  · next old hold _ => rw [node?_put (ne_root_of_file hold), if_neg h]
  · rfl

theorem node?_writeAt_end {location : Location} {old : Utf8.Bytes}
    (h : tree.node? location = some (.file (.bytes old))) (bytes : Utf8.Bytes) :
    (tree.writeAt location old.length bytes).node? location =
      some (.file (.bytes (old ++ bytes))) := by
  unfold writeAt
  rw [h]
  cases bytes with
  | nil => simp [h]
  | cons b rest =>
    simp only
    rw [node?_put (ne_root_of_file h), if_pos rfl]
    simp

end FileTree

end Nomenclator
