import Nomenclator.Proofs.Files.Tree

/-!
# Trees in which files come and go

Two trees with the same directories, links and locked files lead every walk to the same place,
whatever other files they hold. So a tree in which files were written still shows all the others as
they were, and one in which files have only been created shows all that was there before.
-/

namespace Nomenclator

namespace FileTree

/-! ## Trees that differ in files only -/

/-- The same directories, links and locked files, and nothing but other files elsewhere. -/
def SameInner (tree tree' : FileTree) : Prop :=
  ∀ l, tree'.node? l = tree.node? l ∨
    (tree.node? l = none ∨ ∃ bytes, tree.node? l = some (.file (.bytes bytes))) ∧
      (tree'.node? l = none ∨ ∃ bytes, tree'.node? l = some (.file (.bytes bytes)))

/-- What stands at the end of a walk in another tree: only a file or a free name can be another
one there. -/
def seen (tree : FileTree) : Place → Place
  | .free l | .node l (.file _) =>
    match tree.node? l with
    | some (.file content) => .node l (.file content)
    | _ => .free l
  | place => place

variable {tree tree' : FileTree} {base : Location} {p : Path}

theorem SameInner.symm (h : SameInner tree tree') : SameInner tree' tree := by
  intro l
  rcases h l with hsame | ⟨hleft, hright⟩
  · exact .inl hsame.symm
  · exact .inr ⟨hright, hleft⟩

theorem SameInner.trans {tree'' : FileTree} (h : SameInner tree tree')
    (h' : SameInner tree' tree'') : SameInner tree tree'' := by
  intro l
  rcases h l with hsame | ⟨hleft, hright⟩
  · rw [← hsame]
    exact h' l
  · rcases h' l with hsame' | ⟨-, hright'⟩
    · exact .inr ⟨hleft, hsame' ▸ hright⟩
    · exact .inr ⟨hleft, hright'⟩

theorem SameInner.of_agreesOff {changed : Location → Prop} (hagree : AgreesOff changed tree tree')
    (hleaves : OnlyLeaves changed tree) (hleaves' : OnlyLeaves changed tree') :
    SameInner tree tree' := by
  intro l
  by_cases hl : changed l
  · exact .inr ⟨hleaves l hl, hleaves' l hl⟩
  · exact .inl (hagree l hl)

theorem SameInner.node?_inner (h : SameInner tree tree') {l : Location} {node : Node}
    (hnode : tree.node? l = some node) (hinner : ∀ bytes, node ≠ .file (.bytes bytes)) :
    tree'.node? l = some node := by
  rcases h l with hsame | ⟨hnone | ⟨bytes, hfile⟩, -⟩
  · rw [hsame, hnode]
  · rw [hnode] at hnone
    simp at hnone
  · rw [hnode] at hfile
    injection hfile with hfile
    exact absurd hfile (hinner bytes)

theorem SameInner.node?_leaf (h : SameInner tree tree') {l : Location}
    (hleaf : tree.node? l = none ∨ ∃ bytes, tree.node? l = some (.file (.bytes bytes))) :
    tree'.node? l = none ∨ ∃ bytes, tree'.node? l = some (.file (.bytes bytes)) := by
  rcases h l with hsame | ⟨-, hright⟩
  · rw [hsame]
    exact hleaf
  · exact hright

theorem SameInner.node?_end (h : SameInner tree tree') {l : Location}
    (hend : tree.node? l = none ∨ ∃ content, tree.node? l = some (.file content)) :
    tree'.node? l = none ∨ ∃ content, tree'.node? l = some (.file content) := by
  rcases h l with hsame | ⟨-, hnone | ⟨bytes, hfile⟩⟩
  · rw [hsame]
    exact hend
  · exact .inl hnone
  · exact .inr ⟨_, hfile⟩

theorem walk_end (h : SameInner tree tree') {name : Text} (hdot : name ≠ ".") (hdots : name ≠ "..")
    (hshort : ¬isNameTooLong name = true) {directory : Location}
    (hend : tree.node? (directory ++ [name]) = none ∨
      ∃ content, tree.node? (directory ++ [name]) = some (.file content))
    (follow : Bool) (links : Nat) :
    tree'.walk follow links directory [name] = .ok (tree'.seen (.free (directory ++ [name]))) := by
  rw [walk_name hdot hdots hshort, seen]
  rcases h.node?_end hend with hnone | ⟨content, hfile⟩
  · simp [hnone]
  · simp [hfile]

theorem walk_seen (h : SameInner tree tree') {follow : Bool} {links : Nat} {directory : Location}
    {names : List Text} {place : Place}
    (hwalk : tree.walk follow links directory names = .ok place) :
    tree'.walk follow links directory names = .ok (tree'.seen place) := by
  -- both walks meet the same directories and links, and differ at most in what they end at
  fun_induction FileTree.walk tree follow links directory names with
  | case1 =>
    injection hwalk with hwalk
    subst hwalk
    rw [walk]
    rfl
  | case2 links directory rest ih =>
    rw [walk, if_pos rfl]
    exact ih hwalk
  | case3 links directory rest hdot ih =>
    rw [walk, if_neg hdot, if_pos rfl]
    exact ih hwalk
  | case5 links directory name hdot hdots hshort location hnode =>
    injection hwalk with hwalk
    subst hwalk
    exact walk_end h hdot hdots hshort (.inl hnode) _ _
  | case7 links directory name hdot hdots hshort location content hnode =>
    injection hwalk with hwalk
    subst hwalk
    exact walk_end h hdot hdots hshort (.inr ⟨content, hnode⟩) _ _
  | case9 links directory name rest hdot hdots hshort location hnode ih =>
    rw [walk_name hdot hdots hshort, h.node?_inner hnode (by simp)]
    exact ih hwalk
  | case10 links directory name rest hdot hdots hshort location target hnode hlast =>
    rw [walk_name hdot hdots hshort, h.node?_inner hnode (by simp)]
    simp only [if_pos hlast]
    injection hwalk with hwalk
    subst hwalk
    rfl
  | case12 directory name rest hdot hdots hshort location target hnode hlast links ih =>
    rw [walk_name hdot hdots hshort, h.node?_inner hnode (by simp)]
    simp only [if_neg hlast]
    exact ih hwalk
  | _ => simp at hwalk

theorem find_seen (h : SameInner tree tree') {follow : Bool} {place : Place}
    (hfind : tree.find base p follow = .ok place) :
    tree'.find base p follow = .ok (tree'.seen place) := by
  rw [find_eq_ok_iff] at hfind ⊢
  exact ⟨hfind.1, walk_seen h hfind.2⟩

/-- A walk that ends at a file met no link at its end, so it may as well follow one. -/
theorem walk_file_follow {links : Nat} {directory l : Location} {names : List Text}
    {content : Content}
    (h : tree.walk false links directory names = .ok (.node l (.file content))) :
    tree.walk true links directory names = .ok (.node l (.file content)) := by
  fun_induction FileTree.walk tree false links directory names with
  | case1 => simp at h
  | case2 links directory rest ih =>
    rw [walk, if_pos rfl]
    exact ih h
  | case3 links directory rest hdot ih =>
    rw [walk, if_neg hdot, if_pos rfl]
    exact ih h
  | case7 links directory name hdot hdots hshort location content' hnode =>
    rw [walk_name hdot hdots hshort, hnode]
    exact h
  | case9 links directory name rest hdot hdots hshort location hnode ih =>
    rw [walk_name hdot hdots hshort, hnode]
    exact ih h
  | case12 directory name rest hdot hdots hshort location target hnode hlast links ih =>
    rw [walk_name hdot hdots hshort, hnode]
    have hmore : ¬(rest = [] ∧ !true) := by simp
    simp only [if_neg hmore]
    exact ih h
  | _ => simp at h

theorem find_file_follow {l : Location} {content : Content}
    (h : tree.find base p false = .ok (.node l (.file content))) :
    tree.find base p true = .ok (.node l (.file content)) := by
  rw [find_eq_ok_iff] at h ⊢
  exact ⟨h.1, walk_file_follow h.2⟩

/-! ## Files that were written -/

/-- All nodes are as before, except for files where `may` allows it: there was a file already, and
no locked one, or nothing. -/
def WritesOnly (may : Location → Prop) (before after : FileTree) : Prop :=
  ∀ l, after.node? l = before.node? l ∨
    may l ∧ (before.node? l = none ∨ ∃ bytes, before.node? l = some (.file (.bytes bytes))) ∧
      ∃ bytes, after.node? l = some (.file (.bytes bytes))

variable {may may' : Location → Prop} {before after : FileTree} {l : Location}

theorem WritesOnly.refl (may : Location → Prop) (tree : FileTree) : WritesOnly may tree tree :=
  fun _ => .inl rfl

theorem WritesOnly.sameInner (h : WritesOnly may before after) : SameInner before after :=
  fun l => (h l).imp id fun ⟨_, hleaf, hfile⟩ => ⟨hleaf, .inr hfile⟩

theorem WritesOnly.isSome (h : WritesOnly may before after) (hnode : (before.node? l).isSome) :
    (after.node? l).isSome := by
  rcases h l with hsame | ⟨-, -, bytes, hfile⟩
  · rwa [hsame]
  · rw [hfile]
    rfl

theorem WritesOnly.node?_eq (h : WritesOnly may before after) (hl : ¬may l) :
    after.node? l = before.node? l := by
  rcases h l with hsame | ⟨hmay, -⟩
  · exact hsame
  · exact absurd hmay hl

theorem WritesOnly.put (h : WritesOnly may before after) (hl : may l)
    (hleaf : before.node? l = none ∨ ∃ bytes, before.node? l = some (.file (.bytes bytes)))
    (bytes : Utf8.Bytes) : WritesOnly may before (after.put l (.file (.bytes bytes))) := by
  have hroot : l ≠ [] := by
    rintro rfl
    simp [node?_root] at hleaf
  intro l'
  rw [node?_put hroot]
  split
  · next heq => exact .inr ⟨heq ▸ hl, heq ▸ hleaf, bytes, rfl⟩
  · exact h l'

theorem WritesOnly.opened (h : WritesOnly may before after) {overwrite : Bool} {opened : FileTree}
    (hopen : after.openForWriting base p overwrite = .ok (l, opened)) (hl : may l) :
    WritesOnly may before opened ∧
      (before.node? l = none ∨ ∃ bytes, before.node? l = some (.file (.bytes bytes))) := by
  obtain ⟨rfl, hafter, -⟩ := openForWriting_eq_ok hopen
  have hleaf := h.sameInner.symm.node?_leaf (hafter.imp id And.right)
  exact ⟨h.put hl hleaf [], hleaf⟩

theorem WritesOnly.writeAt (h : WritesOnly may before after) (hl : may l)
    (hleaf : before.node? l = none ∨ ∃ bytes, before.node? l = some (.file (.bytes bytes)))
    (offset : Nat) (bytes : Utf8.Bytes) :
    WritesOnly may before (after.writeAt l offset bytes) := by
  unfold FileTree.writeAt
  split
  · exact h
  · exact h.put hl hleaf _
  · exact h

/-- Paths to files lead there still, and to the same content where nothing was written. -/
theorem WritesOnly.lookup_file (h : WritesOnly may before after) {content : Content}
    (hlookup : before.lookup base p = .ok (l, .file content)) :
    ∃ content', after.lookup base p = .ok (l, .file content') ∧
      (¬may l → content' = content) := by
  have hfind := lookup_eq_ok_iff.1 hlookup
  have hafter := find_seen h.sameInner hfind
  have hnode := node?_of_find_file hfind
  rcases h l with hsame | ⟨hl, -, bytes, hfile⟩
  · rw [seen, hsame, hnode] at hafter
    exact ⟨content, lookup_eq_ok_iff.2 hafter, fun _ => rfl⟩
  · rw [seen, hfile] at hafter
    exact ⟨.bytes bytes, lookup_eq_ok_iff.2 hafter, fun hnot => absurd hl hnot⟩

theorem WritesOnly.lookup_of_after (h : WritesOnly may before after) (hl : ¬may l)
    {content : Content} (hlookup : after.lookup base p = .ok (l, .file content)) :
    before.lookup base p = .ok (l, .file content) := by
  have hfind := lookup_eq_ok_iff.1 hlookup
  have hbefore := find_seen h.sameInner.symm hfind
  rw [seen, ← h.node?_eq hl, node?_of_find_file hfind] at hbefore
  exact lookup_eq_ok_iff.2 hbefore

theorem SameInner.lookup_directory (h : SameInner before after)
    (hlookup : before.lookup base p = .ok (l, .directory)) :
    after.lookup base p = .ok (l, .directory) :=
  lookup_eq_ok_iff.2 (find_seen h (lookup_eq_ok_iff.1 hlookup))

/-! ## Names that are taken and names that are free -/

/-- The path leads to a name that is free. A link at its end would take the name. -/
def IsFreeAt (tree : FileTree) (base : Location) (p : Path) (l : Location) : Prop :=
  tree.find base p false = .ok (.free l)

theorem IsFreeAt.node? {l : Location} (h : tree.IsFreeAt base p l) : tree.node? l = none :=
  node?_of_find_free h

theorem openForWriting_exclusive {l : Location} {opened : FileTree}
    (h : tree.openForWriting base p false = .ok (l, opened)) :
    opened = tree.put l (.file (.bytes [])) ∧ tree.IsFreeAt base p l := by
  obtain ⟨rfl, -, place, hfind, hplace⟩ := openForWriting_eq_ok h
  refine ⟨rfl, ?_⟩
  unfold openForWriting at h
  rw [hfind] at h
  cases place with
  | free l => exact hplace ▸ hfind
  | node l node => simp at h

/-- All nodes are as before, except for files at names that were free; `may` says at which. -/
def OnlyCreates (may : Location → Prop) (before after : FileTree) : Prop :=
  ∀ l, after.node? l = before.node? l ∨
    before.node? l = none ∧ may l ∧ ∃ bytes, after.node? l = some (.file (.bytes bytes))

theorem onlyCreates_iff_writesOnly :
    OnlyCreates may before after ↔
      WritesOnly (fun l => before.node? l = none ∧ may l) before after := by
  refine forall_congr' fun l => or_congr_right ?_
  constructor
  · rintro ⟨hnone, hl, hfile⟩
    exact ⟨⟨hnone, hl⟩, .inl hnone, hfile⟩
  · rintro ⟨⟨hnone, hl⟩, -, hfile⟩
    exact ⟨hnone, hl, hfile⟩

theorem OnlyCreates.refl (may : Location → Prop) (tree : FileTree) : OnlyCreates may tree tree :=
  fun _ => .inl rfl

theorem OnlyCreates.mono (h : OnlyCreates may before after) (hmay : ∀ l, may l → may' l) :
    OnlyCreates may' before after :=
  fun l => (h l).imp id fun ⟨hnone, hl, hfile⟩ => ⟨hnone, hmay l hl, hfile⟩

theorem OnlyCreates.sameInner (h : OnlyCreates may before after) : SameInner before after :=
  (onlyCreates_iff_writesOnly.1 h).sameInner

theorem OnlyCreates.kept (h : OnlyCreates may before after) {l : Location} {node : Node}
    (hnode : before.node? l = some node) : after.node? l = some node := by
  rcases h l with hsame | ⟨hnone, -⟩
  · rw [hsame, hnode]
  · rw [hnode] at hnone
    simp at hnone

theorem OnlyCreates.isFreeAt (h : OnlyCreates may before after) {l : Location}
    (hfree : after.IsFreeAt base p l) : before.IsFreeAt base p l := by
  have hfind := find_seen h.sameInner.symm hfree
  have hnone : before.node? l = none := by
    rcases h l with hsame | ⟨hnone, -⟩
    · rw [← hsame, hfree.node?]
    · exact hnone
  rwa [seen, hnone] at hfind

theorem OnlyCreates.find (h : OnlyCreates may before after) {follow : Bool} {l : Location}
    {node : Node} (hfind : before.find base p follow = .ok (.node l node)) :
    after.find base p follow = .ok (.node l node) := by
  rw [find_seen h.sameInner hfind]
  cases node with
  | file content => rw [seen, h.kept (node?_of_find_file hfind)]
  | directory => rfl
  | link target => rfl

theorem seen_opened {overwrite : Bool} {l : Location} {opened : FileTree} {place : Place}
    (h : tree.openForWriting base p overwrite = .ok (l, opened))
    (hfind : tree.find base p overwrite = .ok place) :
    tree'.seen place = tree'.seen (.free l) := by
  unfold openForWriting at h
  rw [hfind] at h
  rcases place with ⟨l', (bytes | error) | _ | _⟩ | l' <;> cases overwrite <;> simp at h
  all_goals
    obtain ⟨rfl, -⟩ := h
    rfl

theorem openForWriting_before {overwrite : Bool} {l : Location} {opened : FileTree}
    (hsame : SameInner before after)
    (honly : overwrite = false → OnlyCreates may before after)
    (h : after.openForWriting base p overwrite = .ok (l, opened)) :
    before.openForWriting base p overwrite = .ok (l, before.put l (.file (.bytes []))) := by
  cases overwrite with
  | false =>
    have hfree := (honly rfl).isFreeAt (openForWriting_exclusive h).2
    rw [openForWriting, hfree]
  | true =>
    obtain ⟨-, hafter, place, hfind, -⟩ := openForWriting_eq_ok h
    rw [openForWriting, find_seen hsame.symm hfind, seen_opened h hfind, seen]
    rcases hsame.symm.node?_leaf (hafter.imp id And.right) with hnone | ⟨bytes, hfile⟩
    · rw [hnone]
    · rw [hfile]
      rfl

theorem read_opened {overwrite : Bool} {l : Location} {opened : FileTree} {bytes : Utf8.Bytes}
    (hsame : SameInner before after)
    (h : before.openForWriting base p overwrite = .ok (l, opened))
    (hfile : after.node? l = some (.file (.bytes bytes))) : after.read base p = .ok bytes := by
  obtain ⟨-, -, place, hfind, -⟩ := openForWriting_eq_ok h
  have hafter := find_seen hsame hfind
  rw [seen_opened h hfind, seen, hfile] at hafter
  have hfollow : after.find base p true = .ok (.node l (.file (.bytes bytes))) := by
    cases overwrite with
    | true => exact hafter
    | false => exact find_file_follow hafter
  rw [read, lookup_eq_ok_iff.2 hfollow]

theorem OnlyCreates.put (h : OnlyCreates may before after) (hnone : before.node? l = none)
    (hl : may l) (bytes : Utf8.Bytes) :
    OnlyCreates may before (after.put l (.file (.bytes bytes))) :=
  onlyCreates_iff_writesOnly.2
    ((onlyCreates_iff_writesOnly.1 h).put ⟨hnone, hl⟩ (.inl hnone) bytes)

theorem OnlyCreates.writeAt (h : OnlyCreates may before after) (hnone : before.node? l = none)
    (hl : may l) (offset : Nat) (bytes : Utf8.Bytes) :
    OnlyCreates may before (after.writeAt l offset bytes) :=
  onlyCreates_iff_writesOnly.2
    ((onlyCreates_iff_writesOnly.1 h).writeAt ⟨hnone, hl⟩ (.inl hnone) offset bytes)

/-- What was there `before` is there `after`, under every path. What is new is a file, and one of
the paths that `aims` allows leads to it, where it led to a free name. -/
structure KeepsExisting (aims : Path → Prop) (base : Location) (before after : FileTree) :
    Prop where
  nodes : ∀ l node, before.node? l = some node → after.node? l = some node
  paths : ∀ path follow l node, before.find base path follow = .ok (.node l node) →
    after.find base path follow = .ok (.node l node)
  created : ∀ l node, before.node? l = none → after.node? l = some node →
    ∃ path bytes, aims path ∧ node = .file (.bytes bytes) ∧ before.IsFreeAt base path l ∧
      after.find base path false = .ok (.node l (.file (.bytes bytes)))

theorem OnlyCreates.keepsExisting {aims : Path → Prop}
    (h : OnlyCreates (fun l => ∃ path, aims path ∧ before.IsFreeAt base path l) before after) :
    KeepsExisting aims base before after where
  nodes := fun _ _ => h.kept
  paths := fun _ _ _ _ => h.find
  created := by
    intro l node hnone hnode
    rcases h l with hsame | ⟨-, ⟨path, haims, hfree⟩, bytes, hfile⟩
    · rw [← hsame, hnode] at hnone
      simp at hnone
    · obtain rfl : node = .file (.bytes bytes) := by simpa [hnode] using hfile
      have hfind := find_seen h.sameInner hfree
      rw [seen, hfile] at hfind
      exact ⟨path, bytes, haims, rfl, hfree, hfind⟩

end FileTree

end Nomenclator
