import Nomenclator.Proofs.Json.Equations

/-!
# The grammar

`Spells depth part p` says that the text `p` spells the value, the items or the members `part` with
at most `depth` brackets open at once. The readers take exactly such texts.
-/

namespace Nomenclator.Json

/-! ## Blanks -/

def Blanks (b : Text) : Prop := ∀ r ∈ b, isBlank r = true

theorem blanks_nil : Blanks [] := by simp [Blanks]

theorem skipBlanks_spec (s : Text) :
    ∃ b, s = b ++ skipBlanks s ∧ Blanks b ∧ StopsAt isBlank (skipBlanks s) :=
  ⟨s.takeWhile isBlank, List.takeWhile_append_dropWhile.symm, fun _ hr => List.mem_takeWhile_imp hr,
    stopsAt_dropWhile _ _⟩

theorem skipBlanks_append {b t : Text} (hb : Blanks b) (ht : StopsAt isBlank t) :
    skipBlanks (b ++ t) = t := by
  rw [skipBlanks, List.dropWhile_append_of_pos hb]
  cases t with
  | nil => rfl
  | cons r rest => rw [List.dropWhile_cons_of_neg (by simp [stopsAt_cons.1 ht])]

theorem stopsAt_blanks {b t : Text} {r : Rune} (hb : Blanks b) (hr : isMark r = true) :
    StopsAt extendsNumber (b ++ r :: t) := by
  have mark : ∀ r, isMark r = true → extendsNumber r = false := by
    intro r hr
    cases h : extendsNumber r with
    | false => rfl
    | true =>
      have hno : isMark r = false := isMark_of_isNumberRune (by
        simp only [extendsNumber, extendsDigits, isNumberRune, Bool.or_eq_true] at h ⊢
        exact .inl h)
      rw [hno] at hr
      exact absurd hr Bool.false_ne_true
  cases b with
  | nil => exact stopsAt_cons.2 (mark r hr)
  | cons r' b => exact stopsAt_cons.2 (mark r' (by simp [isMark, hb r' List.mem_cons_self]))

/-! ## Names -/

/-- The text `p` is a property name and the colon after it. -/
def IsName (p name : Text) : Prop :=
  ∃ q b, p = q ++ (b ++ [⟨0x3A⟩]) ∧ IsQuoted q name ∧ Blanks b

theorem IsName.length_pos {p name : Text} (h : IsName p name) : 0 < p.length := by
  obtain ⟨-, -, rfl, ⟨-, rfl, -⟩, -⟩ := h
  simp

theorem nameAt_spec {s name rest : Text} (h : nameAt s = .ok (name, rest)) :
    ∃ p, s = p ++ rest ∧ IsName p name := by
  by_cases hquote : ∃ t, s = ⟨0x22⟩ :: t
  · obtain ⟨t, rfl⟩ := hquote
    rw [nameAt_quote] at h
    split at h
    · simp at h
    · next name' after hread =>
      obtain ⟨b, hafter, hb, -⟩ := skipBlanks_spec after
      split at h
      · next after' hcolon =>
        injection h with h
        injection h with hname hrest
        subst hname hrest
        obtain ⟨q, hq, hquoted⟩ := isQuoted_of_readString hread
        refine ⟨q ++ (b ++ [⟨0x3A⟩]), ?_, q, b, rfl, hquoted, hb⟩
        rw [hq, hafter, hcolon]
        simp
      · simp at h
  · rw [nameAt_of_ne_quote fun t ht => hquote ⟨t, ht⟩] at h
    simp at h

theorem nameAt_append {p name : Text} (h : IsName p name) (t : Text) :
    nameAt (p ++ t) = .ok (name, t) := by
  obtain ⟨-, b, rfl, ⟨q, rfl, hread⟩, hb⟩ := h
  have hcolon : skipBlanks (b ++ ⟨0x3A⟩ :: t) = ⟨0x3A⟩ :: t :=
    skipBlanks_append hb (stopsAt_cons.2 (by decide))
  have htext : ⟨0x22⟩ :: (q ++ [⟨0x22⟩]) ++ (b ++ [⟨0x3A⟩]) ++ t =
      (⟨0x22⟩ :: (q ++ ⟨0x22⟩ :: (b ++ ⟨0x3A⟩ :: t)) : Text) := by simp
  rw [htext, nameAt_quote, hread]
  simp only [hcolon]

/-! ## Values -/

/-- What a text may spell. -/
inductive Part where
  | value (v : Value)
  | items (vs : List Value)
  | members (pairs : List (Text × Value))

inductive Spells : Nat → Part → Text → Prop
  | plain {depth : Nat} {p : Text} {v : Value} : IsPlain p v → Spells depth (.value v) p
  | quoted {depth : Nat} {p t : Text} : IsQuoted p t → Spells depth (.value (.text t)) p
  | emptyList {depth : Nat} {b : Text} : Blanks b →
      Spells (depth + 1) (.value (.list [])) (⟨0x5B⟩ :: (b ++ [⟨0x5D⟩]))
  | list {depth : Nat} {b p : Text} {vs : List Value} : Blanks b → Spells depth (.items vs) p →
      Spells (depth + 1) (.value (.list vs)) (⟨0x5B⟩ :: (b ++ (p ++ [⟨0x5D⟩])))
  | emptyTable {depth : Nat} {b : Text} : Blanks b →
      Spells (depth + 1) (.value (.table [])) (⟨0x7B⟩ :: (b ++ [⟨0x7D⟩]))
  | table {depth : Nat} {b p : Text} {pairs : List (Text × Value)} : Blanks b →
      Spells depth (.members pairs) p →
      Spells (depth + 1) (.value (.table (Entries.ofList pairs))) (⟨0x7B⟩ :: (b ++ (p ++ [⟨0x7D⟩])))
  | lastItem {depth : Nat} {p b : Text} {v : Value} : Spells depth (.value v) p → Blanks b →
      Spells depth (.items [v]) (p ++ b)
  | item {depth : Nat} {p b b' q : Text} {v : Value} {vs : List Value} :
      Spells depth (.value v) p → Blanks b → Blanks b' → Spells depth (.items vs) q →
      Spells depth (.items (v :: vs)) (p ++ (b ++ ⟨0x2C⟩ :: (b' ++ q)))
  | lastMember {depth : Nat} {n b p b' name : Text} {v : Value} : IsName n name → Blanks b →
      Spells depth (.value v) p → Blanks b' →
      Spells depth (.members [(name, v)]) (n ++ (b ++ (p ++ b')))
  | member {depth : Nat} {n b p b' b'' q name : Text} {v : Value} {pairs : List (Text × Value)} :
      IsName n name → Blanks b → Spells depth (.value v) p → Blanks b' → Blanks b'' →
      Spells depth (.members pairs) q →
      Spells depth (.members ((name, v) :: pairs))
        (n ++ (b ++ (p ++ (b' ++ ⟨0x2C⟩ :: (b'' ++ q)))))

theorem Spells.opens {depth : Nat} {part : Part} {p : Text} (h : Spells depth part p) :
    ∃ r rest, p = r :: rest ∧ (isMark r = false ∨ isOpening r = true) := by
  induction h with
  | plain h =>
    obtain ⟨r, rest, rfl⟩ := List.exists_cons_of_ne_nil h.nonempty
    exact ⟨r, rest, rfl, .inl (h.unmarked r List.mem_cons_self)⟩
  | quoted h =>
    obtain ⟨q, rfl, -⟩ := h
    exact ⟨_, _, rfl, .inr rfl⟩
  | emptyList | list | emptyTable | table => exact ⟨_, _, rfl, .inr rfl⟩
  | lastItem _ _ ih | item _ _ _ _ ih =>
    obtain ⟨r, rest, rfl, hr⟩ := ih
    exact ⟨r, _, rfl, hr⟩
  | lastMember hn | member hn =>
    obtain ⟨-, b, rfl, ⟨q, rfl, -⟩, -⟩ := hn
    exact ⟨_, _, rfl, .inr rfl⟩

/-! ## Taking only what the grammar spells -/

def ValueSound (depth : Nat) (s : Text) : Prop :=
  ∀ v rest, valueAt depth s = .ok (v, rest) → ∃ p, s = p ++ rest ∧ Spells depth (.value v) p

def ItemsSound (depth : Nat) (s : Text) : Prop :=
  ∀ items vs rest, itemsAt depth items s = .ok (vs, rest) →
    ∃ p more, s = p ++ ⟨0x5D⟩ :: rest ∧ vs = items.reverse ++ more ∧ Spells depth (.items more) p

def MembersSound (depth : Nat) (s : Text) : Prop :=
  ∀ entries entries' rest, membersAt depth entries s = .ok (entries', rest) →
    ∃ p pairs, s = p ++ ⟨0x7D⟩ :: rest ∧
      entries' = pairs.foldl (fun entries pair => entries.put pair.1 pair.2) entries ∧
      Spells depth (.members pairs) p

theorem map_eq_ok {α β : Type} {x : Except Stop α} {f : α → β} {b : β} :
    x.map f = .ok b ↔ ∃ a, x = .ok a ∧ f a = b := by
  cases x <;> simp [Except.map]

theorem valueSound_list {depth : Nat} {s : Text}
    (ih : ∀ s' : Text, s'.length ≤ s.length → ItemsSound depth s') :
    ValueSound (depth + 1) (⟨0x5B⟩ :: s) := by
  intro v rest h
  obtain ⟨b, hs, hb, -⟩ := skipBlanks_spec s
  rw [valueAt_bracket] at h
  split at h
  · next after hclose =>
    injection h with h
    injection h with hv hrest
    subst hv hrest
    refine ⟨⟨0x5B⟩ :: (b ++ [⟨0x5D⟩]), ?_, .emptyList hb⟩
    rw [hs, hclose]
    simp
  · obtain ⟨⟨vs, rest'⟩, hitems, hv⟩ := map_eq_ok.1 h
    injection hv with hv hrest
    subst hv hrest
    obtain ⟨p, more, hp, hvs, hspells⟩ := ih _ (length_skipBlanks_le s) _ _ _ hitems
    rw [List.reverse_nil, List.nil_append] at hvs
    subst hvs
    refine ⟨⟨0x5B⟩ :: (b ++ (p ++ [⟨0x5D⟩])), ?_, .list hb hspells⟩
    rw [hs, hp]
    simp

theorem valueSound_table {depth : Nat} {s : Text}
    (ih : ∀ s' : Text, s'.length ≤ s.length → MembersSound depth s') :
    ValueSound (depth + 1) (⟨0x7B⟩ :: s) := by
  intro v rest h
  obtain ⟨b, hs, hb, -⟩ := skipBlanks_spec s
  rw [valueAt_brace] at h
  split at h
  · next after hclose =>
    injection h with h
    injection h with hv hrest
    subst hv hrest
    refine ⟨⟨0x7B⟩ :: (b ++ [⟨0x7D⟩]), ?_, .emptyTable hb⟩
    rw [hs, hclose]
    simp
  · obtain ⟨⟨entries, rest'⟩, hmembers, hv⟩ := map_eq_ok.1 h
    injection hv with hv hrest
    subst hv hrest
    obtain ⟨p, pairs, hp, hentries, hspells⟩ := ih _ (length_skipBlanks_le s) _ _ _ hmembers
    have hentries : entries = Entries.ofList pairs := hentries
    subst hentries
    refine ⟨⟨0x7B⟩ :: (b ++ (p ++ [⟨0x7D⟩])), ?_, .table hb hspells⟩
    rw [hs, hp]
    simp

theorem valueSound_of_shorter {s : Text}
    (ih : ∀ s' : Text, s'.length < s.length → ∀ depth, ItemsSound depth s' ∧ MembersSound depth s')
    (depth : Nat) : ValueSound depth s := by
  by_cases hplain : StopsAt isOpening s
  · intro v rest h
    rw [valueAt_plain hplain] at h
    obtain ⟨p, hp, hplain⟩ := plainAt_spec h
    exact ⟨p, hp, .plain hplain⟩
  · obtain ⟨r, t, rfl, hr⟩ : ∃ r t, s = r :: t ∧ isOpening r = true := by
      cases s with
      | nil => exact absurd (stopsAt_nil _) hplain
      | cons r t => exact ⟨r, t, rfl, by simpa [stopsAt_cons] using hplain⟩
    have inner : ∀ s' : Text, s'.length ≤ t.length → s'.length < (r :: t).length := by
      intro s' h
      exact Nat.lt_succ_of_le h
    obtain ⟨n⟩ := r
    simp only [isOpening, Bool.or_eq_true, beq_iff_eq] at hr
    rcases hr with (rfl | rfl) | rfl
    · intro v rest h
      rw [valueAt_quote] at h
      obtain ⟨⟨content, rest'⟩, hread, hv⟩ := map_eq_ok.1 h
      injection hv with hv hrest
      subst hv hrest
      obtain ⟨p, hp, hquoted⟩ := isQuoted_of_readString hread
      exact ⟨p, hp, .quoted hquoted⟩
    · cases depth with
      | zero =>
        intro v rest h
        rw [valueAt_bracket_zero] at h
        simp at h
      | succ depth => exact valueSound_list fun s' h => (ih s' (inner s' h) depth).1
    · cases depth with
      | zero =>
        intro v rest h
        rw [valueAt_brace_zero] at h
        simp at h
      | succ depth => exact valueSound_table fun s' h => (ih s' (inner s' h) depth).2

theorem itemsSound_of_shorter {depth : Nat} {s : Text} (hvalue : ValueSound depth s)
    (ih : ∀ s' : Text, s'.length < s.length → ItemsSound depth s') : ItemsSound depth s := by
  intro items vs rest h
  rw [itemsAt_eq] at h
  split at h
  · simp at h
  · next item rest' hitem =>
    obtain ⟨p, rfl, hp⟩ := hvalue _ _ hitem
    obtain ⟨b, hb, hblanks, -⟩ := skipBlanks_spec rest'
    split at h
    · next after hclose =>
      injection h with h
      injection h with hvs hrest
      subst hvs hrest
      refine ⟨p ++ b, [item], ?_, by simp, .lastItem hp hblanks⟩
      rw [hb, hclose, List.append_assoc]
    · next after hcomma =>
      obtain ⟨b', hb', hblanks', -⟩ := skipBlanks_spec after
      have hshorter : (skipBlanks after).length < (p ++ rest').length := by
        have := length_skipBlanks_le after
        rw [hb, hcomma]
        simp only [List.length_append, List.length_cons]
        omega
      obtain ⟨q, more, hq, hvs, hmore⟩ := ih _ hshorter _ _ _ h
      refine ⟨p ++ (b ++ ⟨0x2C⟩ :: (b' ++ q)), item :: more, ?_, ?_,
        .item hp hblanks hblanks' hmore⟩
      · rw [hb, hcomma, hb', hq]
        simp
      · rw [hvs]
        simp
    · simp at h

theorem membersSound_of_shorter {depth : Nat} {s : Text}
    (ih : ∀ s' : Text, s'.length < s.length → ValueSound depth s' ∧ MembersSound depth s') :
    MembersSound depth s := by
  intro entries entries' rest h
  rw [membersAt_eq] at h
  split at h
  · simp at h
  · next name rest' hname =>
    obtain ⟨n, rfl, hn⟩ := nameAt_spec hname
    obtain ⟨b, hb, hblanks, -⟩ := skipBlanks_spec rest'
    -- the name takes characters, so what follows it is shorter
    have hpos := hn.length_pos
    split at h
    · simp at h
    · next value rest'' hvalue =>
      have hshorter : (skipBlanks rest').length < (n ++ rest').length := by
        have := length_skipBlanks_le rest'
        rw [List.length_append]
        omega
      obtain ⟨p, hp, hspells⟩ := (ih _ hshorter).1 _ _ hvalue
      obtain ⟨b', hb', hblanks', -⟩ := skipBlanks_spec rest''
      split at h
      · next after hclose =>
        injection h with h
        injection h with hentries hrest
        subst hentries hrest
        refine ⟨n ++ (b ++ (p ++ b')), [(name, value)], ?_, rfl,
          .lastMember hn hblanks hspells hblanks'⟩
        rw [hb, hp, hb', hclose]
        simp
      · next after hcomma =>
        obtain ⟨b'', hb'', hblanks'', -⟩ := skipBlanks_spec after
        have hshorter' : (skipBlanks after).length < (n ++ rest').length := by
          have := length_skipBlanks_le after
          rw [hb, hp, hb', hcomma]
          simp only [List.length_append, List.length_cons]
          omega
        obtain ⟨q, pairs, hq, hentries, hmore⟩ := (ih _ hshorter').2 _ _ _ h
        refine ⟨n ++ (b ++ (p ++ (b' ++ ⟨0x2C⟩ :: (b'' ++ q)))), (name, value) :: pairs, ?_,
          hentries, .member hn hblanks hspells hblanks' hblanks'' hmore⟩
        rw [hb, hp, hb', hcomma, hb'', hq]
        simp
      · simp at h

/-- Each reader takes a stretch of the text that the grammar knows. The readers call each other on
shorter texts, so one induction on the length carries all of them. -/
theorem readers_sound (s : Text) :
    ∀ depth, ValueSound depth s ∧ ItemsSound depth s ∧ MembersSound depth s := by
  induction hn : s.length using Nat.strong_induction_on generalizing s with
  | _ n ih =>
    subst hn
    have shorter : ∀ s' : Text, s'.length < s.length → ∀ depth,
        ValueSound depth s' ∧ ItemsSound depth s' ∧ MembersSound depth s' :=
      fun s' h => ih _ h s' rfl
    intro depth
    have hvalue := valueSound_of_shorter (fun s' h depth => (shorter s' h depth).2) depth
    exact ⟨hvalue, itemsSound_of_shorter hvalue fun s' h => (shorter s' h depth).2.1,
      membersSound_of_shorter fun s' h => ⟨(shorter s' h depth).1, (shorter s' h depth).2.2⟩⟩

theorem valueAt_sound {depth : Nat} {s rest : Text} {v : Value}
    (h : valueAt depth s = .ok (v, rest)) : ∃ p, s = p ++ rest ∧ Spells depth (.value v) p :=
  (readers_sound s depth).1 v rest h

/-! ## Taking all that the grammar spells -/

/-- The readers take `p` as this part, whatever stands after it. -/
def Part.ReadFrom (depth : Nat) (p : Text) : Part → Prop
  | .value v => ∀ t, StopsAt extendsNumber t → valueAt depth (p ++ t) = .ok (v, t)
  | .items vs => ∀ items t,
      itemsAt depth items (p ++ ⟨0x5D⟩ :: t) = .ok (items.reverse ++ vs, t)
  | .members pairs => ∀ entries t,
      membersAt depth entries (p ++ ⟨0x7D⟩ :: t) =
        .ok (pairs.foldl (fun entries pair => entries.put pair.1 pair.2) entries, t)

theorem Spells.skipBlanks_append {depth : Nat} {part : Part} {b p : Text} (hb : Blanks b)
    (h : Spells depth part p) (t : Text) : skipBlanks (b ++ (p ++ t)) = p ++ t := by
  obtain ⟨r, rest, rfl, hr⟩ := h.opens
  refine Json.skipBlanks_append hb (stopsAt_cons.2 ?_)
  rcases hr with hr | hr
  · simp only [isMark, Bool.or_eq_false_iff] at hr
    exact hr.1.1.1.1.1
  · obtain ⟨n⟩ := r
    simp only [isOpening, Bool.or_eq_true, beq_iff_eq] at hr
    rcases hr with (rfl | rfl) | rfl <;> rfl

theorem skipBlanks_mark {b t : Text} {r : Rune} (hb : Blanks b) (hr : isBlank r = false) :
    skipBlanks (b ++ r :: t) = r :: t := skipBlanks_append hb (stopsAt_cons.2 hr)

theorem valueAt_list {depth : Nat} {b p : Text} {vs : List Value} (hb : Blanks b)
    (hp : Spells depth (.items vs) p) (ih : Part.ReadFrom depth p (.items vs)) (t : Text) :
    valueAt (depth + 1) (⟨0x5B⟩ :: (b ++ (p ++ ⟨0x5D⟩ :: t))) = .ok (.list vs, t) := by
  rw [valueAt_bracket, hp.skipBlanks_append hb]
  split
  · next hclose =>
    obtain ⟨r, rest, rfl, hr⟩ := hp.opens
    injection hclose with hr'
    subst hr'
    exact absurd hr (by decide)
  · rw [ih [] t]
    rfl

theorem valueAt_table {depth : Nat} {b p : Text} {pairs : List (Text × Value)} (hb : Blanks b)
    (hp : Spells depth (.members pairs) p) (ih : Part.ReadFrom depth p (.members pairs))
    (t : Text) :
    valueAt (depth + 1) (⟨0x7B⟩ :: (b ++ (p ++ ⟨0x7D⟩ :: t))) =
      .ok (.table (Entries.ofList pairs), t) := by
  rw [valueAt_brace, hp.skipBlanks_append hb]
  split
  · next hclose =>
    obtain ⟨r, rest, rfl, hr⟩ := hp.opens
    injection hclose with hr'
    subst hr'
    exact absurd hr (by decide)
  · rw [ih [] t]
    rfl

theorem Spells.readFrom {depth : Nat} {part : Part} {p : Text} (h : Spells depth part p) :
    part.ReadFrom depth p := by
  -- each rule of the grammar is read by a reader of its own, which stops at what the rule says
  induction h with
  | @plain depth p v h =>
    intro t ht
    obtain ⟨r, rest, rfl⟩ := List.exists_cons_of_ne_nil h.nonempty
    have hr := h.unmarked r List.mem_cons_self
    simp only [isMark, Bool.or_eq_false_iff] at hr
    have hopen : StopsAt isOpening (r :: rest ++ t) := stopsAt_cons.2 hr.1.1.1.1.2
    rw [valueAt_plain hopen]
    exact h.read t ht
  | quoted h =>
    intro t _
    obtain ⟨q, rfl, hread⟩ := h
    rw [List.cons_append, List.append_assoc, List.singleton_append, valueAt_quote, hread]
    rfl
  | @emptyList depth b hb =>
    intro t _
    rw [List.cons_append, List.append_assoc, List.singleton_append, valueAt_bracket,
      skipBlanks_mark hb rfl]
    rfl
  | @list depth b p vs hb hp ih =>
    intro t _
    simpa using valueAt_list hb hp ih t
  | @emptyTable depth b hb =>
    intro t _
    rw [List.cons_append, List.append_assoc, List.singleton_append, valueAt_brace,
      skipBlanks_mark hb rfl]
    rfl
  | @table depth b p pairs hb hp ih =>
    intro t _
    simpa using valueAt_table hb hp ih t
  | @lastItem depth p b v hp hb ih =>
    intro items t
    rw [List.append_assoc, itemsAt_eq, ih _ (stopsAt_blanks hb rfl)]
    simp only [skipBlanks_mark hb (r := ⟨0x5D⟩) rfl, List.reverse_cons]
  | @item depth p b b' q v vs hp hb hb' hq ihp ihq =>
    intro items t
    have htext : p ++ (b ++ ⟨0x2C⟩ :: (b' ++ q)) ++ ⟨0x5D⟩ :: t =
        p ++ (b ++ ⟨0x2C⟩ :: (b' ++ (q ++ ⟨0x5D⟩ :: t))) := by simp
    rw [htext, itemsAt_eq, ihp _ (stopsAt_blanks hb rfl)]
    simp only [skipBlanks_mark hb (r := ⟨0x2C⟩) rfl, hq.skipBlanks_append hb']
    rw [ihq]
    simp
  | @lastMember depth n b p b' name v hn hb hp hb' ih =>
    intro entries t
    have htext : n ++ (b ++ (p ++ b')) ++ ⟨0x7D⟩ :: t = n ++ (b ++ (p ++ (b' ++ ⟨0x7D⟩ :: t))) := by
      simp
    rw [htext, membersAt_eq, nameAt_append hn]
    have hvalue := ih _ (stopsAt_blanks (t := t) hb' (r := ⟨0x7D⟩) rfl)
    simp only [hp.skipBlanks_append hb, hvalue, skipBlanks_mark hb' (r := ⟨0x7D⟩) rfl,
      List.foldl_cons, List.foldl_nil]
  | @member depth n b p b' b'' q name v pairs hn hb hp hb' hb'' hq ihp ihq =>
    intro entries t
    have htext : n ++ (b ++ (p ++ (b' ++ ⟨0x2C⟩ :: (b'' ++ q)))) ++ ⟨0x7D⟩ :: t =
        n ++ (b ++ (p ++ (b' ++ ⟨0x2C⟩ :: (b'' ++ (q ++ ⟨0x7D⟩ :: t))))) := by simp
    rw [htext, membersAt_eq, nameAt_append hn]
    have hvalue := ihp _ (stopsAt_blanks (t := b'' ++ (q ++ ⟨0x7D⟩ :: t)) hb' (r := ⟨0x2C⟩) rfl)
    simp only [hp.skipBlanks_append hb, hvalue, skipBlanks_mark hb' (r := ⟨0x2C⟩) rfl,
      hq.skipBlanks_append hb'']
    exact ihq _ t

/-! ## Whole texts -/

theorem decode_members {p : Text} {pairs : List (Text × Value)}
    (h : Spells (nestingLimit - 1) (.members pairs) p) :
    decode (⟨0x7B⟩ :: (p ++ [⟨0x7D⟩])) = .ok (.table (Entries.ofList pairs)) := by
  have hstart : skipBlanks (⟨0x7B⟩ :: (p ++ [⟨0x7D⟩])) = ⟨0x7B⟩ :: (p ++ [⟨0x7D⟩]) := rfl
  have hvalue : valueAt nestingLimit (⟨0x7B⟩ :: (p ++ [⟨0x7D⟩])) = _ :=
    valueAt_table blanks_nil h h.readFrom []
  rw [decode_eq (by simp), hstart, hvalue]
  rfl

end Nomenclator.Json
