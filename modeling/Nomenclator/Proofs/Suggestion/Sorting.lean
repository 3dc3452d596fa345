import Nomenclator.Proofs.Rename.Composition
import Nomenclator.Proofs.Suggestion.Renames

/-!
# Which renames are kept

Every entry of a table or a list is kept or set aside, and none is both. What is kept for an old
name is the first pair of identifiers that has it.
-/

namespace Nomenclator.Renames

/-! ## Entries -/

/-- The pairs in a value that may be renames, in order. -/
def pairs : Value → List (Value × Value)
  | .table entries => entries.map fun entry => (.text entry.1, entry.2)
  | .list items => items.filterMap itemPair?
  | _ => []

/-- What stands in the place of a pair and is none. -/
def strays : Value → List Value
  | .null => []
  | .table _ => []
  | .list items => items.filter fun item => (itemPair? item).isNone
  | other => [other]

/-- Each element of a list with those before it. -/
def withBefore {α : Type} (before : List α) : List α → List (List α × α)
  | [] => []
  | a :: rest => (before, a) :: withBefore (before ++ [a]) rest

/-- The names of a pair of texts that are identifiers, blanks around them aside. -/
def usable? : Value × Value → Option (Text × Text)
  | (.text old, .text new) =>
    if isIdentifier old.strip ∧ isIdentifier new.strip then some (old.strip, new.strip) else none
  | _ => none

/-- A pair as it is listed where it is set aside. -/
def told : Value × Value → Text × Text
  | (.text old, .text new) => (old.strip, new.strip)
  | (old, new) => (old.shown, new.shown)

/-- The names of a pair, if it is the first usable one with its old name. -/
def firstNames? (before : List (Value × Value)) (pair : Value × Value) : Option (Text × Text) :=
  (usable? pair).filter fun names => !Entries.hasKey names.1 (before.filterMap usable?)

/-! ## The state after some pairs -/

/-- The first usable pairs of each old name. -/
def keptOf (pairs : List (Value × Value)) : Entries Text :=
  (withBefore [] pairs).filterMap fun p => firstNames? p.1 p.2

/-- All other pairs, as they are listed. -/
def droppedOf (pairs : List (Value × Value)) : List (Text × Text) :=
  ((withBefore [] pairs).filter fun p => (firstNames? p.1 p.2).isNone).map fun p => told p.2

theorem withBefore_concat {α : Type} (before as : List α) (a : α) :
    withBefore before (as ++ [a]) = withBefore before as ++ [(before ++ as, a)] := by
  induction as generalizing before with
  | nil => rw [List.append_nil]; rfl
  | cons first rest ih =>
    rw [List.cons_append, withBefore, ih, withBefore, List.append_assoc]
    rfl

theorem filterMap_usable?_concat (pairs : List (Value × Value)) (pair : Value × Value) :
    (pairs ++ [pair]).filterMap usable? = pairs.filterMap usable? ++ (usable? pair).toList := by
  rw [List.filterMap_append]
  cases hnames : usable? pair <;> simp [hnames]

theorem keptOf_concat (pairs : List (Value × Value)) (pair : Value × Value) :
    keptOf (pairs ++ [pair]) = keptOf pairs ++ (firstNames? pairs pair).toList := by
  rw [keptOf, withBefore_concat, List.filterMap_append, keptOf]
  rfl

theorem droppedOf_concat (pairs : List (Value × Value)) (pair : Value × Value) :
    droppedOf (pairs ++ [pair]) =
      droppedOf pairs ++ if (firstNames? pairs pair).isNone then [told pair] else [] := by
  rw [droppedOf, withBefore_concat, List.filter_append, List.map_append, droppedOf]
  by_cases hfirst : (firstNames? pairs pair).isNone = true <;> simp [hfirst]

/-- What is kept for an old name is the first usable pair that has it. -/
theorem get?_keptOf (pairs : List (Value × Value)) (old : Text) :
    (keptOf pairs).get? old = Entries.get? old (pairs.filterMap usable?) := by
  induction pairs using List.reverseRecOn with
  | nil => rfl
  | append_singleton pairs pair ih =>
    rw [keptOf_concat, filterMap_usable?_concat, Entries.get?_append, Entries.get?_append, ih]
    cases htaken : Entries.get? old (pairs.filterMap usable?) with
    | some new => rfl
    | none =>
      rw [Option.none_or, Option.none_or, firstNames?]
      cases hnames : usable? pair with
      | none => rfl
      | some names =>
        by_cases hold : names.1 = old
        · subst hold
          rw [Option.filter_some, Entries.hasKey_eq_false_of_get? htaken]
          rfl
        · rw [Option.filter_some]
          split <;> simp [Entries.get?, hold]

theorem hasKey_keptOf (pairs : List (Value × Value)) (old : Text) :
    (keptOf pairs).hasKey old = Entries.hasKey old (pairs.filterMap usable?) := by
  rw [Entries.hasKey_eq_isSome_get?, Entries.hasKey_eq_isSome_get?, get?_keptOf]

theorem nodup_keptOf (pairs : List (Value × Value)) : (keptOf pairs).keys.Nodup := by
  induction pairs using List.reverseRecOn with
  | nil => exact List.nodup_nil
  | append_singleton pairs pair ih =>
    rw [keptOf_concat]
    cases hnames : firstNames? pairs pair with
    | none => simpa using ih
    | some names =>
      obtain ⟨-, hfree⟩ := Option.filter_eq_some_iff.1 hnames
      rw [Bool.not_eq_true', ← hasKey_keptOf, Entries.hasKey_eq_isSome_get?,
        Option.isSome_eq_false_iff, Option.isNone_iff_eq_none, Entries.get?_eq_none_iff] at hfree
      rw [Option.toList_some, Entries.keys, List.map_append,
        List.perm_append_comm.nodup_iff]
      exact List.nodup_cons.2 ⟨hfree, ih⟩

theorem length_keptOf_add_length_droppedOf (pairs : List (Value × Value)) :
    (keptOf pairs).length + (droppedOf pairs).length = pairs.length := by
  induction pairs using List.reverseRecOn with
  | nil => rfl
  | append_singleton pairs pair ih =>
    rw [keptOf_concat, droppedOf_concat, List.length_append, List.length_append,
      List.length_append, ← ih]
    cases firstNames? pairs pair with
    | none => simp; omega
    | some names => simp; omega

/-! ## One pair more -/

theorem add_eq (renames : Renames) (pair : Value × Value) :
    renames.add pair =
      match (usable? pair).filter fun names => !renames.kept.hasKey names.1 with
      | some names => { renames with kept := renames.kept ++ [names] }
      | none => { renames with dropped := renames.dropped ++ [told pair] } := by
  unfold add
  split
  · next old new =>
    simp only [usable?, told]
    by_cases hids : isIdentifier old.strip = true ∧ isIdentifier new.strip = true
    · cases htaken : renames.kept.hasKey old.strip <;> simp [hids, htaken, Option.filter]
    · rw [if_neg hids, if_neg]
      · rfl
      · rintro husable
        simp only [Bool.and_eq_true] at husable
        exact hids husable.1
  · next old new hno =>
    rw [usable?, told]
    · rfl
    · exact hno
    · rintro old' new' ⟨⟩
      exact hno _ _ rfl rfl

theorem add_sorted (others : List (Text × Text)) (pairs : List (Value × Value))
    (pair : Value × Value) :
    add ⟨keptOf pairs, others ++ droppedOf pairs⟩ pair =
      ⟨keptOf (pairs ++ [pair]), others ++ droppedOf (pairs ++ [pair])⟩ := by
  have hfirst : (usable? pair).filter (fun names => !(keptOf pairs).hasKey names.1) =
      firstNames? pairs pair := by
    simp only [firstNames?, hasKey_keptOf]
  rw [add_eq, hfirst, keptOf_concat, droppedOf_concat]
  cases firstNames? pairs pair <;> simp

theorem foldl_add (others : List (Text × Text)) (pairs : List (Value × Value)) :
    pairs.foldl add ⟨[], others⟩ = ⟨keptOf pairs, others ++ droppedOf pairs⟩ := by
  induction pairs using List.reverseRecOn with
  | nil => rw [List.foldl_nil, droppedOf]; simp [keptOf, withBefore]
  | append_singleton pairs pair ih =>
    rw [List.foldl_append, ih, List.foldl_cons, List.foldl_nil, add_sorted]

/-! ## The entries of a value -/

theorem ofValue_eq (value : Value) :
    ofValue value = ⟨keptOf (pairs value),
      (strays value).map (fun item => (item.shown, [])) ++ droppedOf (pairs value)⟩ := by
  cases value with
  | table entries => exact foldl_add [] _
  | list items => exact foldl_add _ _
  | _ => rfl

theorem nodup_ofValue (value : Value) : (ofValue value).kept.keys.Nodup := by
  rw [ofValue_eq]
  exact nodup_keptOf _

theorem length_ofValue (value : Value) :
    (ofValue value).kept.length + (ofValue value).dropped.length =
      (strays value).length + (pairs value).length := by
  rw [ofValue_eq, List.length_append, List.length_map, ← length_keptOf_add_length_droppedOf]
  dsimp only
  omega

theorem length_strays_add_length_pairs (items : List Value) :
    (strays (.list items)).length + (pairs (.list items)).length = items.length := by
  induction items with
  | nil => rfl
  | cons item rest ih =>
    rw [strays, pairs] at ih ⊢
    rw [List.length_cons, ← ih]
    cases hpair : itemPair? item <;> simp [hpair] <;> omega

/-- The renames of a value are sorted: the first usable pair with an old name is kept, all else is
set aside in order, and what is no pair stands before the pairs. -/
structure IsSorted (value : Value) (renames : Renames) : Prop where
  identifiers : AreIdentifiers renames.kept
  nodup : renames.kept.keys.Nodup
  first : ∀ old, renames.kept.get? old = Entries.get? old ((pairs value).filterMap usable?)
  kept : renames.kept = (withBefore [] (pairs value)).filterMap fun p => firstNames? p.1 p.2
  dropped : renames.dropped = (strays value).map (fun item => (item.shown, [])) ++
    ((withBefore [] (pairs value)).filter fun p => (firstNames? p.1 p.2).isNone).map
      fun p => told p.2

theorem isSorted_ofValue (value : Value) : IsSorted value (ofValue value) where
  identifiers := ofValue_areIdentifiers value
  nodup := nodup_ofValue value
  first old := by
    rw [ofValue_eq]
    exact get?_keptOf _ old
  kept := by
    rw [ofValue_eq]
    rfl
  dropped := by
    rw [ofValue_eq]
    rfl

/-- The two names of an item are a pair of the table. -/
def Lists (items : List Value) (entries : Entries Value) : Prop :=
  items.map itemPair? = entries.map fun entry => some (.text entry.1, entry.2)

theorem ofValue_of_lists {items : List Value} {entries : Entries Value} (h : Lists items entries) :
    ofValue (.list items) = ofValue (.table entries) := by
  have hpairs : pairs (.list items) = pairs (.table entries) := by
    have hsame := congrArg (List.filterMap id) h
    rw [List.filterMap_map, List.filterMap_map] at hsame
    exact hsame.trans (congrFun List.filterMap_eq_map entries)
  have hstrays : strays (.list items) = [] := by
    refine List.filter_eq_nil_iff.2 fun item hitem => ?_
    have hmem := List.mem_map_of_mem (f := itemPair?) hitem
    rw [h] at hmem
    obtain ⟨entry, -, hentry⟩ := List.mem_map.1 hmem
    simp [← hentry]
  rw [ofValue_eq, ofValue_eq, hpairs, hstrays]
  rfl

/-- Nothing is lost or told twice, what is kept and what is set aside is fixed by the entries in
their order, and it makes no difference whether they come as a table or as a list. -/
theorem ofValue_sorts :
    (∀ entries, (ofValue (.table entries)).kept.length + (ofValue (.table entries)).dropped.length =
      entries.length) ∧
    (∀ items, (ofValue (.list items)).kept.length + (ofValue (.list items)).dropped.length =
      items.length) ∧
    (∀ value, IsSorted value (ofValue value)) ∧
    ∀ items entries, Lists items entries → ofValue (.list items) = ofValue (.table entries) := by
  refine ⟨fun entries => ?_, fun items => ?_, isSorted_ofValue, fun _ _ => ofValue_of_lists⟩
  · rw [length_ofValue, pairs, List.length_map]
    exact Nat.zero_add _
  · rw [length_ofValue, length_strays_add_length_pairs]

/-- A list whose items hold more than the two names, and a table with the same pairs, one of which
has a name that is taken. -/
theorem ofValue_sorts_taken :
    let items : List Value :=
      [.table [("new_name", .text " count"), ("original_name", .text "v1")],
        .table [("original_name", .text "v1 "), ("new_name", .text "n"), ("why", .null)]]
    let entries : Entries Value := [("v1", .text " count"), ("v1 ", .text "n")]
    Lists items entries ∧ ofValue (.list items) = ofValue (.table entries) ∧
      ofValue (.table entries) = ⟨[("v1", "count")], [("v1", "n")]⟩ := by
  intro items entries
  have h : Lists items entries := rfl
  exact ⟨h, ofValue_sorts.2.2.2 items entries h, rfl⟩

end Nomenclator.Renames
