import QueryNotebook.Number.Binary64

/-!
# Shortest decimal text

The decimal text of a double: the fewest digits that read back as it, and of those the nearest.
Which of two equally near ones is taken, and how the digits are laid out, are separate choices: a
`Style` makes both.
-/

namespace QueryNotebook.Binary64

/-- Where the first digit of a ratio below one stands: the number of zeros after the point. -/
def leadingZeros : Nat → Nat → Nat → Nat
  | 0, _, _ => 0
  | fuel + 1, numerator, denominator =>
      if numerator * 10 < denominator then 1 + leadingZeros fuel (numerator * 10) denominator else 0

/-- The position of the decimal point relative to the first digit of a positive ratio. -/
def decimalPoint (numerator denominator : Nat) : Int :=
  if denominator ≤ numerator then (Nat.toDigits 10 (numerator / denominator)).length
  else -(leadingZeros 400 numerator denominator : Int)

/-- Exact comparison data of `count · 10 ^ grid` and `quarters · 2 ^ (exponent - 2)`, both as
natural numbers over one denominator. -/
def overCommon (count : Nat) (grid : Int) (quarters : Nat) (exponent : Int) : Nat × Nat :=
  (count * tenTo grid * twoTo (2 - exponent),
    quarters * twoTo (exponent - 2) * tenTo (-grid))

/-- `count · 10 ^ grid` rounds to the double.  The interval reaches half-way to both neighbours and
holds its ends when the significand is even. -/
def readsBack (significand : Nat) (exponent : Int) (count : Nat) (grid : Int) : Bool :=
  let narrow := significand == twoTo 52 && leastExponent < exponent
  let below := overCommon count grid (4 * significand - if narrow then 1 else 2) exponent
  let above := overCommon count grid (4 * significand + 2) exponent
  if significand % 2 = 0 then below.2 ≤ below.1 && above.1 ≤ above.2
  else below.2 < below.1 && above.1 < above.2

/-- The distance of `count · 10 ^ grid` from the double, in units that depend on the grid alone. -/
def distance (significand : Nat) (exponent : Int) (count : Nat) (grid : Int) : Nat :=
  let sides := overCommon count grid (4 * significand) exponent
  (sides.1 - sides.2) + (sides.2 - sides.1)

/-- What decides between two counts that are equally near. -/
inductive TieRule where
  /-- The even one is taken. -/
  | even
  /-- The larger one is taken. -/
  | larger
deriving DecidableEq, Repr

/-- Of a count and the next one, equally near, the rule takes the former. -/
def TieRule.takesFormer : TieRule → Nat → Bool
  | .even, count => count % 2 == 0
  | .larger, _ => false

/-- The nearest point of one decimal grid that reads back, if the grid has one. -/
def onGrid? (tie : TieRule) (significand : Nat) (exponent : Int) (grid : Int) : Option Nat :=
  let floor :=
    significand * twoTo exponent * tenTo (-grid) / (twoTo (-exponent) * tenTo grid)
  let hits := [floor, floor + 1].filter fun count => readsBack significand exponent count grid
  match hits with
  | [] => none
  | [only] => some only
  | first :: second :: _ =>
      let left := distance significand exponent first grid
      let right := distance significand exponent second grid
      if left < right ∨ (left = right ∧ tie.takesFormer first) then some first else some second

/-- The first of several grids with a point that reads back. -/
def firstHit (tie : TieRule) (significand : Nat) (exponent : Int) : List Int → Nat × Int
  | [] => (significand, 0)
  | grid :: finer =>
      match onGrid? tie significand exponent grid with
      | some count => (count, grid)
      | none => firstHit tie significand exponent finer

/-- A count and its decimal exponent with the trailing zeros moved into the exponent. -/
def stripZeros : Nat → Nat → Int → Nat × Int
  | 0, count, grid => (count, grid)
  | fuel + 1, count, grid =>
      if count ≠ 0 ∧ count % 10 = 0 then stripZeros fuel (count / 10) (grid + 1) else (count, grid)

/-- The shortest digits of a positive finite double and their decimal exponent. -/
def shortest (tie : TieRule) (significand : Nat) (exponent : Int) : Nat × Int :=
  let point := decimalPoint (significand * twoTo exponent) (twoTo (-exponent))
  let grids := (List.range 17).map fun digits : Nat => point - (digits + 1 : Nat)
  let hit := firstHit tie significand exponent grids
  stripZeros 20 hit.1 hit.2

/-- Which numbers are written without an exponent. -/
inductive Layout where
  /-- Every number is written without an exponent. -/
  | positional
  /-- Only a number whose decimal point stands at `low` to `high` places after its first digit. -/
  | scientificOutside (low high : Int)
deriving DecidableEq, Repr

/-- The layout writes a number with this position of the decimal point without an exponent. -/
def Layout.isPositional : Layout → Int → Bool
  | .positional, _ => true
  | .scientificOutside low high, point => low ≤ point && point ≤ high

/-- Digits with a decimal point at the given place, and at least one digit on either side of it. -/
def placePoint (digits : List Char) (point : Int) : List Char :=
  if point ≤ 0 then '0' :: '.' :: (List.replicate (-point).toNat '0' ++ digits)
  else if (digits.length : Int) ≤ point then
    digits ++ List.replicate (point.toNat - digits.length) '0' ++ ['.', '0']
  else digits.take point.toNat ++ '.' :: digits.drop point.toNat

/-- An exponent as it is written: its sign always stands before it. -/
def exponentText (exponent : Int) : List Char :=
  (if exponent < 0 then '-' else '+') :: Nat.toDigits 10 exponent.natAbs

/-- Digits with the point after the first one and a power of ten. -/
def placeExponent (digits : List Char) (point : Int) : List Char :=
  let mantissa :=
    match digits with
    | first :: second :: rest => first :: '.' :: second :: rest
    | few => few
  mantissa ++ 'e' :: exponentText (point - 1)

/-- How numbers are written. -/
structure Style where
  tie : TieRule
  layout : Layout
deriving DecidableEq, Repr

/-- The text of a double in a style. -/
def text (style : Style) : Binary64 → List Char
  | .notANumber => ['N', 'a', 'N']
  | .infinite negative => (if negative then ['-'] else []) ++ ['i', 'n', 'f']
  | .finite negative significand exponent =>
      let unsigned :=
        if significand = 0 then ['0', '.', '0']
        else
          let decimal := shortest style.tie significand exponent
          let digits := Nat.toDigits 10 decimal.1
          let point : Int := digits.length + decimal.2
          if style.layout.isPositional point then placePoint digits point
          else placeExponent digits point
      (if negative then ['-'] else []) ++ unsigned

end QueryNotebook.Binary64
