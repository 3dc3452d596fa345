import Nomenclator.Text.Basic

/-!
# UTF-8

Files hold bytes. Decoding takes the longest well-formed sequence at each place; what is no start of
one is refused, or replaced piece by piece when the text is only to be looked at. Encoding refuses
lone surrogates.
-/

namespace Nomenclator.Utf8

abbrev Bytes := List UInt8

/-! ## Decoding -/

inductive Reason where
  | startByte
  | continuationByte
  | endOfData
deriving DecidableEq, Repr

def Reason.message : Reason → Text
  | startByte => "invalid start byte"
  | continuationByte => "invalid continuation byte"
  | endOfData => "unexpected end of data"

/-- The bounds on the first continuation byte of a sequence, which exclude overlong forms,
surrogates and code points beyond the last one. -/
def secondBounds (lead : Nat) : Nat × Nat :=
  if lead = 0xE0 then (0xA0, 0xBF)
  else if lead = 0xED then (0x80, 0x9F)
  else if lead = 0xF0 then (0x90, 0xBF)
  else if lead = 0xF4 then (0x80, 0x8F)
  else (0x80, 0xBF)

/-- How many bytes a sequence has, by its first one; zero for a byte that starts none. -/
def sequenceLength (lead : Nat) : Nat :=
  if lead < 0x80 then 1
  else if lead < 0xC2 then 0
  else if lead < 0xE0 then 2
  else if lead < 0xF0 then 3
  else if lead < 0xF5 then 4
  else 0

/-- Either a code point or a malformed piece, with the number of bytes it takes. -/
inductive Piece where
  | rune (r : Rune) (size : Nat)
  | malformed (reason : Reason) (size : Nat)

/-- Reads `missing` more continuation bytes; `taken` have been read. -/
def continueSequence (value taken missing : Nat) (bounds : Nat × Nat) : Bytes → Piece
  | [] => if missing = 0 then .rune ⟨value⟩ taken else .malformed .endOfData taken
  | b :: rest =>
    if missing = 0 then .rune ⟨value⟩ taken
    else if bounds.1 ≤ b.toNat ∧ b.toNat ≤ bounds.2 then
      continueSequence (value * 64 + (b.toNat - 0x80)) (taken + 1) (missing - 1) (0x80, 0xBF) rest
    else .malformed .continuationByte taken

/-- The piece that starts with `lead` and goes on in `rest`. -/
def piece (lead : UInt8) (rest : Bytes) : Piece :=
  let b := lead.toNat
  match sequenceLength b with
  | 0 => .malformed .startByte 1
  | 1 => .rune ⟨b⟩ 1
  | 2 => continueSequence (b - 0xC0) 1 1 (secondBounds b) rest
  | 3 => continueSequence (b - 0xE0) 1 2 (secondBounds b) rest
  | _ => continueSequence (b - 0xF0) 1 3 (secondBounds b) rest

def replacement : Rune := ⟨0xFFFD⟩

/-- The text of `bytes`, with one replacement character for each malformed piece. -/
def decodeReplacing (bytes : Bytes) : Text :=
  match bytes with
  | [] => []
  | b :: rest =>
    match piece b rest with
    | .rune r size => r :: decodeReplacing (rest.drop (size - 1))
    | .malformed _ size => replacement :: decodeReplacing (rest.drop (size - 1))
termination_by bytes.length
decreasing_by all_goals simp only [List.length_drop, List.length_cons]; omega

/-- The first malformed piece: its bytes and where they stand. -/
structure DecodeProblem where
  position : Nat
  piece : Bytes
  reason : Reason
deriving DecidableEq, Repr

def decodeFrom (position : Nat) (taken : Text) (bytes : Bytes) : Except DecodeProblem Text :=
  match bytes with
  | [] => .ok taken.reverse
  | b :: rest =>
    match piece b rest with
    | .rune r size => decodeFrom (position + size) (r :: taken) (rest.drop (size - 1))
    | .malformed reason size => .error ⟨position, (b :: rest).take size, reason⟩
termination_by bytes.length
decreasing_by simp only [List.length_drop, List.length_cons]; omega

def decode (bytes : Bytes) : Except DecodeProblem Text := decodeFrom 0 [] bytes

def DecodeProblem.message (p : DecodeProblem) : Text :=
  match p.piece with
  | [b] =>
    Text.concat
      ["'utf-8' codec can't decode byte 0x", Text.ofHex 2 b.toNat, " in position ",
        Text.ofNat p.position, ": ", p.reason.message]
  | bytes =>
    Text.concat
      ["'utf-8' codec can't decode bytes in position ", Text.ofNat p.position, "-",
        Text.ofNat (p.position + bytes.length - 1), ": ", p.reason.message]

/-! ## Encoding -/

def encodeRune (r : Rune) : Bytes :=
  let byte (n : Nat) : UInt8 := UInt8.ofNat n
  let n := r.code
  if n < 0x80 then [byte n]
  else if n < 0x800 then [byte (0xC0 + n / 64), byte (0x80 + n % 64)]
  else if n < 0x10000 then
    [byte (0xE0 + n / 4096), byte (0x80 + n / 64 % 64), byte (0x80 + n % 64)]
  else
    [byte (0xF0 + n / 262144), byte (0x80 + n / 4096 % 64), byte (0x80 + n / 64 % 64),
      byte (0x80 + n % 64)]

/-- The first run of surrogates in a text that was to be encoded. -/
structure EncodeProblem where
  position : Nat
  surrogates : Text
deriving DecidableEq, Repr

/-- Can the text be written to a file? -/
def isEncodable (t : Text) : Bool := t.all fun r => !r.isSurrogate

def encode (t : Text) : Except EncodeProblem Bytes :=
  if isEncodable t then .ok (t.flatMap encodeRune)
  else
    let before := t.takeWhile fun r => !r.isSurrogate
    .error ⟨before.length, (t.drop before.length).takeWhile Rune.isSurrogate⟩

def EncodeProblem.message (p : EncodeProblem) : Text :=
  match p.surrogates with
  | [r] =>
    Text.concat
      ["'utf-8' codec can't encode character '\\u", Text.ofHex 4 r.code, "' in position ",
        Text.ofNat p.position, ": surrogates not allowed"]
  | surrogates =>
    Text.concat
      ["'utf-8' codec can't encode characters in position ", Text.ofNat p.position, "-",
        Text.ofNat (p.position + surrogates.length - 1), ": surrogates not allowed"]

end Nomenclator.Utf8

namespace Nomenclator.Text

/-- Every line end becomes a line feed. -/
def unifyLineEnds : Text → Text
  | [] => []
  | ⟨0x0D⟩ :: ⟨0x0A⟩ :: rest => ⟨0x0A⟩ :: unifyLineEnds rest
  | ⟨0x0D⟩ :: rest => ⟨0x0A⟩ :: unifyLineEnds rest
  | r :: rest => r :: unifyLineEnds rest

end Nomenclator.Text
