import Nomenclator.Number.Binary64

/-!
# Decimal text of doubles

Two ways to choose digits, one way to lay them out. `shortest` takes the fewest digits that read
back, `rounded` a fixed number of significant digits. Both work on exact ratios.
-/

namespace Nomenclator

/-- The number `0.d₁d₂… * 10 ^ point`; a nonzero number has a nonzero first digit. -/
structure DecimalDigits where
  digits : Nat
  point : Int
deriving DecidableEq, Repr

namespace DecimalDigits

/-- Drops trailing zeros, which change nothing in a fraction. -/
def normalize (digits : Nat) : Nat :=
  if h : digits = 0 then 0
  else if digits % 10 = 0 then normalize (digits / 10) else digits
termination_by digits
decreasing_by omega

/-- The least `p` with `m * 2 ^ q < 10 ^ p`, from a guess that is at most two too small. -/
def pointOf (m : Nat) (q : Int) : Int :=
  let guess : Int := ((m.log2 : Int) + q) * 30103 / 100000
  let below (p : Int) : Bool :=
    let (a, b) := scaleByTwo m 1 (-q)
    let (c, d) := scaleByTen 1 1 (-p)
    a * d < c * b
  if below guess then guess else if below (guess + 1) then guess + 1 else guess + 2

/-- The grid point of `10 ^ (point - count)` that reads back as the double and is nearest to it, if
one of the two neighbours on that grid reads back. -/
def onGrid? (m : Nat) (q : Int) (point : Int) (count : Nat) : Option Nat :=
  let grid := point - count
  -- everything is counted in quarters of the last binary place
  let (unit, den) := scaleByTwo 1 1 (-(q - 2))
  let (num, den) := scaleByTen unit den grid
  let value := 4 * m * num
  let below := if m = Binary64.smallestNormal ∧ Binary64.minExponent < q then 1 else 2
  let low := (4 * m - below) * num
  let high := (4 * m + 2) * num
  let readsBack (d : Nat) : Bool :=
    if m % 2 = 0 then low ≤ d * den && d * den ≤ high else low < d * den && d * den < high
  let down := value / den
  let up := down + 1
  match readsBack down, readsBack up with
  | false, false => none
  | true, false => some down
  | false, true => some up
  | true, true =>
    let toDown := value - down * den
    let toUp := up * den - value
    some (if toDown < toUp then down else if toUp < toDown then up else down + down % 2)

def shortestFrom (m : Nat) (q : Int) (point : Int) (count : Nat) : Nat → Nat × Nat
  | 0 => (count, (onGrid? m q point count).getD 0)
  | more + 1 =>
    match onGrid? m q point count with
    | some digits => (count, digits)
    | none => shortestFrom m q point (count + 1) more

/-- A digit count that overflowed by one place moves the point. -/
def ofGrid (digits count : Nat) (point : Int) : DecimalDigits :=
  if digits = Nat.pow 10 count then ⟨1, point + 1⟩ else ⟨normalize digits, point⟩

/-- The fewest digits that read back as `m * 2 ^ q`, and the nearest of those. -/
def shortest (m : Nat) (q : Int) : DecimalDigits :=
  if m = 0 then ⟨0, 1⟩
  else
    let point := pointOf m q
    let (count, digits) := shortestFrom m q point 1 16
    ofGrid digits count point

/-- `m * 2 ^ q` to `count` significant digits; a tie goes to the even neighbour. -/
def rounded (count : Nat) (m : Nat) (q : Int) : DecimalDigits :=
  if m = 0 then ⟨0, 1⟩
  else
    let point := pointOf m q
    let (unit, den) := scaleByTwo 1 1 (-q)
    let (num, den) := scaleByTen unit den (point - count)
    ofGrid (roundDiv (m * num) den) count point

end DecimalDigits

/-! ## Layout -/

/-- Where positional notation starts and ends, by the exponent of the first digit, and whether a
whole number keeps `.0`. -/
structure DecimalLayout where
  positionalFrom : Int
  positionalBelow : Int
  keepsPoint : Bool

namespace DecimalLayout

/-- Numbers in messages: positional from `1e-04` up to but not including `1e+16`. -/
def plain : DecimalLayout := ⟨-4, 16, true⟩

/-- Durations: six significant digits, positional below `1e+06`. -/
def general : DecimalLayout := ⟨-4, 6, false⟩

def exponentText (e : Int) : Text :=
  let magnitude := Text.ofNat e.natAbs
  let padded := if e.natAbs < 10 then Rune.ofChar '0' :: magnitude else magnitude
  Rune.ofChar 'e' :: Rune.ofChar (if e < 0 then '-' else '+') :: padded

def write (layout : DecimalLayout) (x : DecimalDigits) : Text :=
  let digits := Text.ofNat x.digits
  let exponent := x.point - 1
  if layout.positionalFrom ≤ exponent ∧ exponent < layout.positionalBelow then
    if x.point ≤ 0 then
      Text.concat ["0.", List.replicate (-x.point).toNat '0', digits]
    else
      let point := x.point.toNat
      let whole := digits.take point ++ List.replicate (point - digits.length) (Rune.ofChar '0')
      match digits.drop point with
      | [] => if layout.keepsPoint then whole ++ ".0" else whole
      | fraction => whole ++ Rune.ofChar '.' :: fraction
  else
    let mantissa :=
      match digits with
      | first :: second :: rest => first :: Rune.ofChar '.' :: second :: rest
      | short => short
    mantissa ++ exponentText exponent

end DecimalLayout

namespace Binary64

def writeWith (layout : DecimalLayout) (choose : Nat → Int → DecimalDigits) : Binary64 → Text
  | .nan => "nan"
  | .infinity negative => if negative then "-inf" else "inf"
  | .finite negative m q =>
    let body := layout.write (choose m q)
    if negative then Rune.ofChar '-' :: body else body

/-- The shortest text that reads back. -/
def written (x : Binary64) : Text := x.writeWith .plain .shortest

/-- The text with six significant digits. -/
def general (x : Binary64) : Text := x.writeWith .general (DecimalDigits.rounded 6)

end Binary64

end Nomenclator
