import Nomenclator.Command.Basic
import Nomenclator.Command.Problem

/-!
# Words

The words of a command line fall into switches with their values and operands. A switch is written
with its name, its value in the next word or after an equals sign, or with its letter, its value in
the next word or right behind; letters without values may share a word. Two dashes alone end the
switches.
-/

namespace Nomenclator.Command

/-- A switch as it was given; without a value the text is empty. -/
structure GivenSwitch where
  switch : Switch
  value : Text
deriving DecidableEq, Repr

structure Words where
  given : List GivenSwitch
  operands : List Text
deriving DecidableEq, Repr

/-- The switches of one word; `tookNext` tells whether the next word was their value. -/
structure WordSwitches where
  given : List GivenSwitch
  tookNext : Bool
deriving DecidableEq, Repr

def dash : Rune := ⟨0x2D⟩

def equals : Rune := ⟨0x3D⟩

def twoDashes : Text := [dash, dash]

/-- A dash alone is an operand. -/
def isSwitchWord : Text → Bool
  | first :: _ :: _ => first == dash
  | _ => false

/-- Reads a switch that is given by its name. -/
def readNamed (name : Text) (value next : Option Text) (switch : Switch) :
    Except Problem WordSwitches :=
  if switch.takesValue then
    match value, next with
    | some value, _ => .ok ⟨[⟨switch, value⟩], false⟩
    | none, some next => .ok ⟨[⟨switch, next⟩], true⟩
    | none, none => .error (.noValue name)
  else
    match value with
    | some _ => .error (.unwantedValue name)
    | none => .ok ⟨[⟨switch, []⟩], false⟩

/-- Reads the letters of a word. A value takes all that is left of the word, or else the next
word. -/
def readLetters (switches : List Switch) (next : Option Text) :
    Text → Except Problem WordSwitches
  | [] => .ok ⟨[], false⟩
  | letter :: rest =>
    match switches.find? fun switch => switch.letter? == some letter with
    | none => .error (.noSuchSwitch [dash, letter] [])
    | some switch =>
      if switch.takesValue then
        match rest, next with
        | _ :: _, _ => .ok ⟨[⟨switch, rest⟩], false⟩
        | [], some next => .ok ⟨[⟨switch, next⟩], true⟩
        | [], none => .error (.noValue [dash, letter])
      else
        (readLetters switches next rest).map fun more => ⟨⟨switch, []⟩ :: more.given, more.tookNext⟩

/-- Reads a word that begins with a dash. -/
def readSwitchWord (switches : List Switch) (word : Text) (next : Option Text) :
    Except Problem WordSwitches :=
  let (name, value) : Text × Option Text :=
    match word.cutAt? equals with
    | some (name, value) => (name, some value)
    | none => (word, none)
  match switches.find? fun switch => switch.name == name with
  | some switch => readNamed name value next switch
  | none =>
    if twoDashes.isPrefixOf word then
      .error (.noSuchSwitch name (Text.closest name (switches.map Switch.name)))
    else readLetters switches next (word.drop 1)

/-- Reads the words of a command that knows `switches`. Where switches and operands are not `mixed`,
the first operand ends the switches. -/
def readWords (switches : List Switch) (mixed : Bool) (words : List Text) : Except Problem Words :=
  match words with
  | [] => .ok ⟨[], []⟩
  | word :: rest =>
    if word = twoDashes then .ok ⟨[], rest⟩
    else if isSwitchWord word then
      match readSwitchWord switches word rest.head? with
      | .error problem => .error problem
      | .ok here =>
        (readWords switches mixed (if here.tookNext then rest.tail else rest)).map fun more =>
          { more with given := here.given ++ more.given }
    else if mixed then
      (readWords switches mixed rest).map fun more =>
        { more with operands := word :: more.operands }
    else .ok ⟨[], word :: rest⟩
termination_by words.length
decreasing_by
  · split <;> simp only [List.length_tail, List.length_cons] <;> omega
  · simp only [List.length_cons]; omega

namespace Words

def has (words : Words) (switch : Switch) : Bool := words.given.any fun g => g.switch == switch

/-- The value of a switch; the last one counts. -/
def value? (words : Words) (switch : Switch) : Option Text :=
  (words.given.reverse.find? fun g => g.switch == switch).map GivenSwitch.value

/-- Is a switch on that is on by itself and that `off` turns off? The last of the two counts. -/
def isOn (words : Words) (on off : Switch) : Bool :=
  match words.given.reverse.find? fun g => g.switch == on || g.switch == off with
  | some g => g.switch == on
  | none => true

end Words

end Nomenclator.Command
