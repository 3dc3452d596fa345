import Nomenclator.Json.Reader

/-!
# Finding the answer in prose

A model may wrap its JSON object in prose or code fences. Candidates are the balanced `{…}` texts,
from the left; the first one that decodes is the answer, and if none does, the first candidate.
-/

namespace Nomenclator.Suggestion

/-- Where a scan for the closing brace stands. -/
inductive ScanState where
  | code
  | quoted
  | escaped
deriving DecidableEq, Repr

/-- The length of the text up to the brace that brings `depth` back to zero. Braces inside quotes do
not count. -/
def balancedLength? (state : ScanState) (depth : Nat) : Text → Option Nat
  | [] => none
  | r :: rest =>
    match state with
    | .escaped => (balancedLength? .quoted depth rest).map (· + 1)
    | .quoted =>
      if r.code = 0x5C then (balancedLength? .escaped depth rest).map (· + 1)
      else if r.code = 0x22 then (balancedLength? .code depth rest).map (· + 1)
      else (balancedLength? .quoted depth rest).map (· + 1)
    | .code =>
      if r.code = 0x22 then (balancedLength? .quoted depth rest).map (· + 1)
      else if r.code = 0x7B then (balancedLength? .code (depth + 1) rest).map (· + 1)
      else if r.code = 0x7D then
        if depth ≤ 1 then some 1 else (balancedLength? .code (depth - 1) rest).map (· + 1)
      else (balancedLength? .code depth rest).map (· + 1)

/-- The balanced object at the start of a text that begins with a brace. -/
def balanced? (s : Text) : Option Text := (balancedLength? .code 0 s).map s.take

/-- The answer in `s`, with `first` as the first candidate so far. Only nesting that is too deep
stops the search. -/
def extractFrom (first : Option Text) : Text → Except Json.Stop (Option Text)
  | [] => .ok first
  | r :: rest =>
    if r.code = 0x7B then
      match balanced? (r :: rest) with
      | none => extractFrom first rest
      | some candidate =>
        match Json.decode candidate with
        | .ok _ => .ok (some candidate)
        | .error .tooDeep => .error .tooDeep
        | .error _ => extractFrom (first <|> some candidate) rest
    else extractFrom first rest

def extract (s : Text) : Except Json.Stop (Option Text) := extractFrom none s

end Nomenclator.Suggestion
