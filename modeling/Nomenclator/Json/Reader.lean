import Nomenclator.Json.Stop
import Nomenclator.Value.Basic

/-!
# JSON

`readValue` takes one value from the start of a text and ignores what follows; `decode` wants the
value to be the whole text. The dialect also knows `NaN` and the infinities, and lets escapes spell
lone surrogates.
-/

namespace Nomenclator.Json

/-- What a reader took from the start of `s`. It always takes something. -/
structure Taken (α : Type) (s : Text) where
  value : α
  rest : Text
  shorter : rest.length < s.length

def isBlank (r : Rune) : Bool := r.code == 0x20 || r.within 0x09 0x0A || r.code == 0x0D

def skipBlanks (s : Text) : Text := s.dropWhile isBlank

theorem length_dropWhile_le {α : Type} (p : α → Bool) (l : List α) :
    (l.dropWhile p).length ≤ l.length := (List.dropWhile_sublist p).length_le

theorem length_skipBlanks_le (s : Text) : (skipBlanks s).length ≤ s.length :=
  length_dropWhile_le _ s

/-! ## Strings -/

/-- The character that a one-letter escape stands for. -/
def shortEscape? (r : Rune) : Option Rune :=
  if r = '"' ∨ r = '\\' ∨ r = '/' then some r
  else if r = 'b' then some ⟨0x08⟩
  else if r = 'f' then some ⟨0x0C⟩
  else if r = 'n' then some ⟨0x0A⟩
  else if r = 'r' then some ⟨0x0D⟩
  else if r = 't' then some ⟨0x09⟩
  else none

def fourHex? (a b c d : Rune) : Option Nat := do
  let a ← a.hexValue?
  let b ← b.hexValue?
  let c ← c.hexValue?
  let d ← d.hexValue?
  return ((a * 16 + b) * 16 + c) * 16 + d

/-- Two escapes that spell a surrogate pair stand for one character. `high` is the first of them,
when it is waiting for its partner. -/
def joinSurrogates (high low : Nat) : Rune := ⟨0x10000 + (high - 0xD800) * 0x400 + (low - 0xDC00)⟩

def isHighSurrogate (n : Nat) : Bool := 0xD800 ≤ n && n ≤ 0xDBFF

def isLowSurrogate (n : Nat) : Bool := 0xDC00 ≤ n && n ≤ 0xDFFF

/-- The content of a string and what follows its closing quote. `opening` is the text from the
opening quote on, `taken` the content so far in reverse, and `waiting` a high surrogate that an
escape has just spelled. -/
def readString (opening taken : Text) (waiting : Option Nat) : Text → Except Stop (Text × Text)
  | [] => .error (.malformed .unterminatedText opening)
  | ⟨0x22⟩ :: rest => .ok (taken.reverse, rest)
  | [⟨0x5C⟩] => .error (.malformed .unterminatedText opening)
  | ⟨0x5C⟩ :: ⟨0x75⟩ :: rest =>
    match rest with
    | a :: b :: c :: d :: next :: rest =>
      match fourHex? a b c d with
      | none => .error (.malformed .unicodeEscape (⟨0x75⟩ :: a :: b :: c :: d :: next :: rest))
      | some n =>
        match waiting with
        | some high =>
          if isLowSurrogate n then
            readString opening (joinSurrogates high n :: taken.tail) none (next :: rest)
          else
            readString opening (⟨n⟩ :: taken) (if isHighSurrogate n then some n else none)
              (next :: rest)
        | none =>
          readString opening (⟨n⟩ :: taken) (if isHighSurrogate n then some n else none)
            (next :: rest)
    | short => .error (.malformed .unicodeEscape (⟨0x75⟩ :: short))
  | ⟨0x5C⟩ :: e :: rest =>
    match shortEscape? e with
    | some r => readString opening (r :: taken) none rest
    | none => .error (.malformed .escape (⟨0x5C⟩ :: e :: rest))
  | r :: rest =>
    if r.code < 0x20 then .error (.malformed .controlCharacter (r :: rest))
    else readString opening (r :: taken) none rest

theorem readString_shorter {opening taken : Text} {waiting : Option Nat} {s content rest : Text}
    (h : readString opening taken waiting s = .ok (content, rest)) : rest.length < s.length := by
  fun_induction readString opening taken waiting s with
  | case1 => simp at h
  | case2 => simp_all
  | case3 => simp at h
  | case4 => simp at h
  | case5 _ _ _ _ _ _ _ _ _ _ _ ih => have := ih h; simp only [List.length_cons] at *; omega
  | case6 _ _ _ _ _ _ _ _ _ _ _ ih => have := ih h; simp only [List.length_cons] at *; omega
  | case7 _ _ _ _ _ _ _ _ _ ih => have := ih h; simp only [List.length_cons] at *; omega
  | case8 => simp at h
  | case9 _ _ _ _ _ _ _ ih => have := ih h; simp only [List.length_cons] at *; omega
  | case10 => simp at h
  | case11 => simp at h
  | case12 _ _ _ _ _ _ _ _ _ ih => have := ih h; simp only [List.length_cons] at *; omega

/-! ## Numbers -/

def takeAsciiDigits (s : Text) : Text × Text :=
  (s.takeWhile Rune.isAsciiDigit, s.dropWhile Rune.isAsciiDigit)

/-- A point counts only with a digit after it. -/
def takeFraction : Text → Text × Text
  | ⟨0x2E⟩ :: rest =>
    match takeAsciiDigits rest with
    | ([], _) => ([], ⟨0x2E⟩ :: rest)
    | taken => taken
  | s => ([], s)

/-- The sign of an exponent: is it a minus? -/
def takeSign : Text → Bool × Text
  | ⟨0x2D⟩ :: rest => (true, rest)
  | ⟨0x2B⟩ :: rest => (false, rest)
  | s => (false, s)

/-- An exponent counts only with a digit in it. -/
def takeExponent : Text → Option Int × Text
  | [] => (none, [])
  | e :: rest =>
    if e = 'e' ∨ e = 'E' then
      match takeAsciiDigits (takeSign rest).2 with
      | ([], _) => (none, e :: rest)
      | (digits, after) =>
        let n : Int := Text.digitsValue digits
        (some (if (takeSign rest).1 then -n else n), after)
    else (none, e :: rest)

/-- The digits before the point: a zero stands alone. -/
def takeWhole : Text → Text × Text
  | ⟨0x30⟩ :: rest => ([⟨0x30⟩], rest)
  | s => takeAsciiDigits s

/-- A number is as long as its grammar goes. Without a fraction and an exponent it is an integer. -/
def readNumber? (negative : Bool) (s : Text) : Option (Except Stop Value × Text) :=
  match takeWhole s with
  | ([], _) => none
  | (whole, rest) =>
    let (fraction, rest) := takeFraction rest
    let (exponent, rest) := takeExponent rest
    if fraction.isEmpty && exponent.isNone then
      let n : Int := Text.digitsValue whole
      if integerDigits < whole.length then some (.error (.integerTooLong whole.length), rest)
      else some (.ok (.integer (if negative then -n else n)), rest)
    else
      let x :=
        Binary64.ofDecimal negative (Text.digitsValue (whole ++ fraction))
          (exponent.getD 0 - fraction.length)
      some (.ok (.real x), rest)

theorem length_takeAsciiDigits_le (s : Text) : (takeAsciiDigits s).2.length ≤ s.length :=
  length_dropWhile_le _ s

theorem length_takeFraction_le (s : Text) : (takeFraction s).2.length ≤ s.length := by
  unfold takeFraction
  split
  · rename_i rest
    have := length_takeAsciiDigits_le rest
    split
    · simp
    · simp only [List.length_cons]
      omega
  · simp

theorem length_takeSign_le (s : Text) : (takeSign s).2.length ≤ s.length := by
  unfold takeSign
  split <;> simp

theorem length_takeExponent_le (s : Text) : (takeExponent s).2.length ≤ s.length := by
  unfold takeExponent
  split
  · simp
  · rename_i e rest
    have h1 := length_takeSign_le rest
    split
    · split
      · simp
      · rename_i digits after _ hdigits
        have h2 := length_takeAsciiDigits_le (takeSign rest).2
        rw [hdigits] at h2
        simp only [List.length_cons] at *
        omega
    · simp

theorem takeWhole_shorter {s whole rest : Text} (h : takeWhole s = (whole, rest))
    (hw : whole ≠ []) : rest.length < s.length := by
  unfold takeWhole at h
  split at h
  · simp_all
  · rw [takeAsciiDigits] at h
    injection h with h1 h2
    have hs : s = whole ++ rest := by rw [← h1, ← h2, List.takeWhile_append_dropWhile]
    have : 0 < whole.length := List.length_pos_iff.2 hw
    rw [hs, List.length_append]
    omega

theorem readNumber?_shorter {negative : Bool} {s rest : Text} {v : Except Stop Value}
    (h : readNumber? negative s = some (v, rest)) : rest.length < s.length := by
  unfold readNumber? at h
  split at h
  · simp at h
  · rename_i whole rest' hne hw
    have h0 := takeWhole_shorter hw (hne)
    have h1 := length_takeFraction_le rest'
    have h2 := length_takeExponent_le (takeFraction rest').2
    dsimp only at h
    split at h
    · split at h <;> (injection h with h; injection h with _ h; rw [← h]; omega)
    · injection h with h; injection h with _ h; rw [← h]; omega

/-! ## Values -/

/-- How many brackets may be open at once. -/
def nestingLimit : Nat := 990

/-- The words of the dialect. -/
def wordValues : List (Text × Value) :=
  [("null", .null), ("true", .boolean true), ("false", .boolean false), ("NaN", .real .nan),
    ("Infinity", .real (.infinity false)), ("-Infinity", .real (.infinity true))]

/-- A word or a number. -/
def readPlain (s : Text) : Except Stop (Taken Value s) :=
  match wordValues.find? fun word => word.1.isPrefixOf s with
  | some (word, value) =>
    if h : (s.drop word.length).length < s.length then .ok ⟨value, s.drop word.length, h⟩
    else .error (.malformed .value s)
  | none =>
    match s with
    | ⟨0x2D⟩ :: digits =>
      match h : readNumber? true digits with
      | some (.ok value, rest) =>
        .ok ⟨value, rest, by have := readNumber?_shorter h; simp only [List.length_cons]; omega⟩
      | some (.error stop, _) => .error stop
      | none => .error (.malformed .value (⟨0x2D⟩ :: digits))
    | s =>
      match h : readNumber? false s with
      | some (.ok value, rest) => .ok ⟨value, rest, readNumber?_shorter h⟩
      | some (.error stop, _) => .error stop
      | none => .error (.malformed .value s)

/-- A string, from its opening quote on. -/
def readQuoted (rest : Text) : Except Stop (Taken Text (⟨0x22⟩ :: rest)) :=
  match h : readString (⟨0x22⟩ :: rest) [] none rest with
  | .ok (content, after) =>
    .ok ⟨content, after, by have := readString_shorter h; simp only [List.length_cons]; omega⟩
  | .error stop => .error stop

/-- A property name and the colon after it. -/
def readName (s : Text) : Except Stop (Taken Text s) :=
  match s with
  | ⟨0x22⟩ :: rest =>
    match readQuoted rest with
    | .error stop => .error stop
    | .ok name =>
      match h : skipBlanks name.rest with
      | ⟨0x3A⟩ :: after =>
        .ok ⟨name.value, after, by
          have h1 := name.shorter
          have h2 := length_skipBlanks_le name.rest
          rw [h] at h2
          simp only [List.length_cons] at *
          omega⟩
      | other => .error (.malformed .colon other)
  | other => .error (.malformed .propertyName other)

mutual

/-- One value at the very start of `s`; `depth` brackets may still be opened. -/
def readValue (depth : Nat) (s : Text) : Except Stop (Taken Value s) :=
  match s with
  | ⟨0x22⟩ :: rest =>
    match readQuoted rest with
    | .ok string => .ok ⟨.text string.value, string.rest, string.shorter⟩
    | .error stop => .error stop
  | ⟨0x5B⟩ :: rest =>
    match depth with
    | 0 => .error .tooDeep
    | depth + 1 =>
      match h : skipBlanks rest with
      | ⟨0x5D⟩ :: after =>
        .ok ⟨.list [], after, by
          have := length_skipBlanks_le rest
          rw [h] at this
          simp only [List.length_cons] at *
          omega⟩
      | inner =>
        match readItems depth [] inner with
        | .ok items =>
          .ok ⟨.list items.value, items.rest, by
            have h1 := items.shorter
            have h2 := length_skipBlanks_le rest
            rw [h] at h2
            simp only [List.length_cons] at *
            omega⟩
        | .error stop => .error stop
  | ⟨0x7B⟩ :: rest =>
    match depth with
    | 0 => .error .tooDeep
    | depth + 1 =>
      match h : skipBlanks rest with
      | ⟨0x7D⟩ :: after =>
        .ok ⟨.table [], after, by
          have := length_skipBlanks_le rest
          rw [h] at this
          simp only [List.length_cons] at *
          omega⟩
      | inner =>
        match readMembers depth [] inner with
        | .ok members =>
          .ok ⟨.table members.value, members.rest, by
            have h1 := members.shorter
            have h2 := length_skipBlanks_le rest
            rw [h] at h2
            simp only [List.length_cons] at *
            omega⟩
        | .error stop => .error stop
  | s => readPlain s
termination_by (s.length, 0)
decreasing_by
  all_goals
    have h2 := length_skipBlanks_le rest
    rw [h] at h2
    simp only [List.length_cons] at *
    exact Prod.Lex.left _ _ (by omega)

/-- The items of a list up to its closing bracket; `items` are those before, in reverse. -/
def readItems (depth : Nat) (items : List Value) (s : Text) : Except Stop (Taken (List Value) s) :=
  match readValue depth s with
  | .error stop => .error stop
  | .ok item =>
    match h : skipBlanks item.rest with
    | ⟨0x5D⟩ :: after =>
      .ok ⟨(item.value :: items).reverse, after, by
        have h1 := item.shorter
        have h2 := length_skipBlanks_le item.rest
        rw [h] at h2
        simp only [List.length_cons] at *
        omega⟩
    | ⟨0x2C⟩ :: after =>
      match readItems depth (item.value :: items) (skipBlanks after) with
      | .error stop => .error stop
      | .ok more =>
        .ok ⟨more.value, more.rest, by
          have h1 := item.shorter
          have h2 := length_skipBlanks_le item.rest
          have h3 := length_skipBlanks_le after
          have h4 := more.shorter
          rw [h] at h2
          simp only [List.length_cons] at *
          omega⟩
    | other => .error (.malformed .comma other)
termination_by (s.length, 1)
decreasing_by
  · exact Prod.Lex.right _ (by decide)
  · have h1 := item.shorter
    have h2 := length_skipBlanks_le item.rest
    have h3 := length_skipBlanks_le after
    rw [h] at h2
    simp only [List.length_cons] at *
    exact Prod.Lex.left _ _ (by omega)

/-- The members of a table up to its closing brace; `entries` are those before. -/
def readMembers (depth : Nat) (entries : Entries Value) (s : Text) :
    Except Stop (Taken (Entries Value) s) :=
  match readName s with
  | .error stop => .error stop
  | .ok name =>
    match readValue depth (skipBlanks name.rest) with
    | .error stop => .error stop
    | .ok value =>
      let entries := entries.put name.value value.value
      match h : skipBlanks value.rest with
      | ⟨0x7D⟩ :: after =>
        .ok ⟨entries, after, by
          have h0 := name.shorter
          have h1 := value.shorter
          have h2 := length_skipBlanks_le value.rest
          have h3 := length_skipBlanks_le name.rest
          rw [h] at h2
          simp only [List.length_cons] at *
          omega⟩
      | ⟨0x2C⟩ :: after =>
        match readMembers depth entries (skipBlanks after) with
        | .error stop => .error stop
        | .ok more =>
          .ok ⟨more.value, more.rest, by
            have h0 := name.shorter
            have h1 := value.shorter
            have h2 := length_skipBlanks_le value.rest
            have h3 := length_skipBlanks_le name.rest
            have h4 := length_skipBlanks_le after
            have h5 := more.shorter
            rw [h] at h2
            simp only [List.length_cons] at *
            omega⟩
      | other => .error (.malformed .comma other)
termination_by (s.length, 1)
decreasing_by
  · have h0 := name.shorter
    have h3 := length_skipBlanks_le name.rest
    exact Prod.Lex.left _ _ (by omega)
  · have h0 := name.shorter
    have h1 := value.shorter
    have h2 := length_skipBlanks_le value.rest
    have h3 := length_skipBlanks_le name.rest
    have h4 := length_skipBlanks_le after
    rw [h] at h2
    simp only [List.length_cons] at *
    exact Prod.Lex.left _ _ (by omega)

end

/-! ## Whole texts -/

/-- The value that the whole text spells, blanks around it aside. -/
def decode (s : Text) : Except Stop Value :=
  match s with
  | ⟨0xFEFF⟩ :: _ => .error (.malformed .byteOrderMark s)
  | _ =>
    match readValue nestingLimit (skipBlanks s) with
    | .error stop => .error stop
    | .ok value =>
      match skipBlanks value.rest with
      | [] => .ok value.value
      | rest => .error (.malformed .extraData rest)

end Nomenclator.Json
