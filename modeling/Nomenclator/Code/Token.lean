import Nomenclator.Code.Rule

/-!
# Tokens

Code as a list of tokens that follow one another without gaps, blanks and comments included.
-/

namespace Nomenclator.Code

/-- Where a move leads; the state at hand comes first, then those around it. The outermost is not
left. -/
def Move.apply (stack : List State) : Move → List State
  | .stay => stack
  | .enter state => state :: stack
  | .nest => stack.take 1 ++ stack
  | .leave => if stack.length ≤ 1 then stack else stack.drop 1

/-- A rule that fits at a place, with the ends of its parts. -/
def fitting? (stack : List State) (p : Position) : Option (Rule × List Position) :=
  (stack.head?.elim [] State.rules).findSome? fun rule =>
    (Pattern.ends? (rule.parts.map (·.1)) p).map fun ends => (rule, ends)

/-- The texts of parts that start at a place and have these ends. -/
def partTexts (p : Position) : List Position → List Text
  | [] => []
  | q :: rest => p.textTo q :: partTexts q rest

/-- The tokens from a place on. Where no rule fits, a line feed leads back to the top. -/
def tokensFrom (fuel : Nat) (stack : List State) (p : Position) : List Text :=
  match fuel, p.step? with
  | 0, _ => []
  | _, none => []
  | fuel + 1, some next =>
    match fitting? stack p with
    | some (rule, ends) =>
      let read (part : Text) : Reading → List Text
        | .token => if part.isEmpty then [] else [part]
        | .within .top => tokensFrom fuel [.top] (Position.start part)
        | .within state => tokensFrom fuel [state, .top] (Position.start part)
      ((partTexts p ends).zip (rule.parts.map (·.2))).flatMap (fun (part, reading) =>
        read part reading) ++
        tokensFrom fuel (rule.move.apply stack) (ends.getLast?.getD p)
    | none =>
      p.textTo next :: tokensFrom fuel (if p.isBefore Rune.isLineFeed then [.top] else stack) next

/-- Of three steps in a row at least one takes a character. -/
def stepsFor (code : Text) : Nat := 4 * (code.length + 1)

def tokens (code : Text) : List Text := tokensFrom (stepsFor code) [.top] (Position.start code)

end Nomenclator.Code
