import Nomenclator.Proofs.Json.Token

/-!
# The readers without their evidence

A reader returns its value with the evidence that it took something. Here are the readers as
functions to a value and what follows it, and the equations that they satisfy.
-/

namespace Nomenclator.Json

def nameAt (s : Text) : Except Stop (Text × Text) := (readName s).map Taken.cut

def valueAt (depth : Nat) (s : Text) : Except Stop (Value × Text) :=
  (readValue depth s).map Taken.cut

def itemsAt (depth : Nat) (items : List Value) (s : Text) : Except Stop (List Value × Text) :=
  (readItems depth items s).map Taken.cut

def membersAt (depth : Nat) (entries : Entries Value) (s : Text) :
    Except Stop (Entries Value × Text) :=
  (readMembers depth entries s).map Taken.cut

theorem map_cut_ok {α : Type} {s : Text} (taken : Taken α s) :
    (Except.ok taken : Except Stop _).map Taken.cut = .ok (taken.value, taken.rest) := rfl

theorem readQuoted_cut (rest : Text) :
    (readQuoted rest).map Taken.cut = readString (⟨0x22⟩ :: rest) [] none rest := by
  unfold readQuoted
  split <;> simp_all [Except.map, Taken.cut]

theorem nameAt_quote (rest : Text) :
    nameAt (⟨0x22⟩ :: rest) =
      match readString (⟨0x22⟩ :: rest) [] none rest with
      | .error stop => .error stop
      | .ok (name, after) =>
        match skipBlanks after with
        | ⟨0x3A⟩ :: after => .ok (name, after)
        | other => .error (.malformed .colon other) := by
  rw [← readQuoted_cut, nameAt, readName]
  cases readQuoted rest with
  | error stop => rfl
  | ok name =>
    rw [map_cut_ok]
    dsimp only
    split <;> simp_all [Except.map, Taken.cut]

theorem nameAt_of_ne_quote {s : Text} (h : ∀ t, s ≠ ⟨0x22⟩ :: t) :
    nameAt s = .error (.malformed .propertyName s) := by
  unfold nameAt readName
  split
  · exact absurd rfl (h _)
  · rfl

theorem valueAt_quote (depth : Nat) (rest : Text) :
    valueAt depth (⟨0x22⟩ :: rest) =
      (readString (⟨0x22⟩ :: rest) [] none rest).map fun x => (.text x.1, x.2) := by
  rw [← readQuoted_cut, valueAt, readValue]
  cases readQuoted rest <;> rfl

theorem valueAt_bracket_zero (rest : Text) : valueAt 0 (⟨0x5B⟩ :: rest) = .error .tooDeep := by
  rw [valueAt, readValue]
  rfl

theorem valueAt_brace_zero (rest : Text) : valueAt 0 (⟨0x7B⟩ :: rest) = .error .tooDeep := by
  rw [valueAt, readValue]
  rfl

theorem valueAt_bracket (depth : Nat) (rest : Text) :
    valueAt (depth + 1) (⟨0x5B⟩ :: rest) =
      match skipBlanks rest with
      | ⟨0x5D⟩ :: after => .ok (.list [], after)
      | inner => (itemsAt depth [] inner).map fun x => (.list x.1, x.2) := by
  rw [valueAt, readValue]
  split
  · simp_all [Except.map, Taken.cut]
  · simp only [itemsAt]
    split <;> simp_all [Except.map, Taken.cut]

theorem valueAt_brace (depth : Nat) (rest : Text) :
    valueAt (depth + 1) (⟨0x7B⟩ :: rest) =
      match skipBlanks rest with
      | ⟨0x7D⟩ :: after => .ok (.table [], after)
      | inner => (membersAt depth [] inner).map fun x => (.table x.1, x.2) := by
  rw [valueAt, readValue]
  split
  · simp_all [Except.map, Taken.cut]
  · simp only [membersAt]
    split <;> simp_all [Except.map, Taken.cut]

/-- What opens no string, list or table is a word or a number. -/
theorem valueAt_plain {depth : Nat} {s : Text} (h : StopsAt isOpening s) :
    valueAt depth s = plainAt s := by
  unfold valueAt plainAt
  rw [readValue.eq_def]
  split <;> simp_all [StopsAt, isOpening]

theorem itemsAt_eq (depth : Nat) (items : List Value) (s : Text) :
    itemsAt depth items s =
      match valueAt depth s with
      | .error stop => .error stop
      | .ok (item, rest) =>
        match skipBlanks rest with
        | ⟨0x5D⟩ :: after => .ok ((item :: items).reverse, after)
        | ⟨0x2C⟩ :: after => itemsAt depth (item :: items) (skipBlanks after)
        | other => .error (.malformed .comma other) := by
  unfold itemsAt valueAt
  rw [readItems.eq_def]
  cases readValue depth s with
  | error stop => rfl
  | ok item =>
    rw [map_cut_ok]
    dsimp only
    split
    · simp_all [Except.map, Taken.cut]
    · split <;> simp_all [Except.map, Taken.cut]
    · simp_all [Except.map]

theorem membersAt_eq (depth : Nat) (entries : Entries Value) (s : Text) :
    membersAt depth entries s =
      match nameAt s with
      | .error stop => .error stop
      | .ok (name, rest) =>
        match valueAt depth (skipBlanks rest) with
        | .error stop => .error stop
        | .ok (value, rest) =>
          match skipBlanks rest with
          | ⟨0x7D⟩ :: after => .ok (entries.put name value, after)
          | ⟨0x2C⟩ :: after => membersAt depth (entries.put name value) (skipBlanks after)
          | other => .error (.malformed .comma other) := by
  unfold membersAt nameAt valueAt
  rw [readMembers.eq_def]
  cases readName s with
  | error stop => rfl
  | ok name =>
    rw [map_cut_ok]
    dsimp only
    cases readValue depth (skipBlanks name.rest) with
    | error stop => rfl
    | ok value =>
      rw [map_cut_ok]
      dsimp only
      split
      · simp_all [Except.map, Taken.cut]
      · split <;> simp_all [Except.map, Taken.cut]
      · simp_all [Except.map]

theorem decode_eq {s : Text} (h : ∀ t, s ≠ ⟨0xFEFF⟩ :: t) :
    decode s =
      match valueAt nestingLimit (skipBlanks s) with
      | .error stop => .error stop
      | .ok (value, rest) =>
        match skipBlanks rest with
        | [] => .ok value
        | rest => .error (.malformed .extraData rest) := by
  unfold decode valueAt
  split
  · exact absurd rfl (h _)
  · cases readValue nestingLimit (skipBlanks s) <;> rfl

/-! ## Tables -/

theorem exists_table_of_valueAt {depth : Nat} {s rest : Text} {v : Value}
    (h : valueAt depth (⟨0x7B⟩ :: s) = .ok (v, rest)) : ∃ entries, v = .table entries := by
  cases depth with
  | zero =>
    rw [valueAt_brace_zero] at h
    exact absurd h (by simp)
  | succ depth =>
    rw [valueAt_brace] at h
    split at h
    · injection h with h
      exact ⟨[], (congrArg Prod.fst h).symm⟩
    · next inner hinner =>
      cases hmembers : membersAt depth [] (skipBlanks s) with
      | error stop =>
        rw [hmembers] at h
        exact absurd h (by simp [Except.map])
      | ok members =>
        rw [hmembers] at h
        injection h with h
        exact ⟨members.1, (congrArg Prod.fst h).symm⟩

/-- What starts with a brace decodes to a table, if it decodes at all. -/
theorem exists_table_of_decode {s : Text} {v : Value} (h : decode (⟨0x7B⟩ :: s) = .ok v) :
    ∃ entries, v = .table entries := by
  have hstart : skipBlanks (⟨0x7B⟩ :: s) = ⟨0x7B⟩ :: s := rfl
  rw [decode_eq (by simp), hstart] at h
  split at h
  · simp at h
  · next value rest hvalue =>
    split at h
    · injection h with h
      exact h ▸ exists_table_of_valueAt hvalue
    · simp at h

end Nomenclator.Json
