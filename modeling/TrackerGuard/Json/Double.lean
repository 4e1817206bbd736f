/-!
# Double-precision numbers in JSON texts

A number of a JSON text that is no integer of the 64-bit ranges is a double.  Two things about it
can be seen from outside.

*Reading.*  The digits of a text are gathered into a significand and a power of ten, and the double
is the significand times that power, both rounded to doubles and multiplied (or divided) as doubles.
A product too large for a double is no number.

*Writing.*  A double is written with the fewest significant digits that read back as it, and among
those with the nearest; from `1e-5` and below `1e16` positionally and always with a point, elsewhere
with an exponent that carries its sign (`1e+20`).

A double is kept as its 64 bits, so that equality is decidable and the two zeros differ.
-/

namespace TrackerGuard.Json

/-- A double-precision number, by its bits. -/
structure Double where
  bits : UInt64
  deriving DecidableEq, Repr, Inhabited

namespace Double

/-! ## From a decimal number -/

/-- The double nearest to a power of ten. -/
def powerOfTen (e : Nat) : Float := Float.ofScientific 1 false e

/-- The number divided by a power of ten, 308 places at a time.  Two such steps bring every
significand of 64 bits to zero. -/
def scaleDown (f : Float) (places : Nat) : Float :=
  if places ≤ 308 then f / powerOfTen places
  else if places ≤ 616 then f / powerOfTen 308 / powerOfTen (places - 308)
  else 0

/-- The double for `significand * 10 ^ exponent` with a sign; none when it is too large. -/
def ofDecimal? (negative : Bool) (significand : UInt64) (exponent : Int) : Option Double :=
  let f := significand.toFloat
  let size? :=
    if exponent < 0 then some (scaleDown f (-exponent).toNat)
    else if exponent ≤ 308 then
      let g := f * powerOfTen exponent.toNat
      if g.isInf then none else some g
    else if significand = 0 then some 0
    else none
  size?.map fun g => ⟨(if negative then -g else g).toBits⟩

/-! ## The shortest decimal number that reads back -/

/-- A positive number `mantissa * 2 ^ exponent` among the doubles.  At a power of two the next
smaller double is only half as far away as the next larger one. -/
structure Binary where
  mantissa : Nat
  exponent : Int
  narrowBelow : Bool

/-- The size of a double. -/
def binary (d : Double) : Binary :=
  let m := (d.bits &&& 0xFFFFFFFFFFFFF).toNat
  let e := ((d.bits >>> 52) &&& 0x7FF).toNat
  if e = 0 then ⟨m, -1074, false⟩ else ⟨0x10000000000000 + m, e - 1075, m = 0 && 1 < e⟩

namespace Binary

/-- `quarters * 2 ^ (exponent - 2)` in a unit in which also multiples of `10 ^ place` are whole. -/
def scaled (b : Binary) (place : Int) (quarters : Nat) : Nat :=
  quarters * Nat.pow 2 (b.exponent - 2).toNat * Nat.pow 10 (-place).toNat

/-- `digits * 10 ^ place` in the same unit. -/
def gridPoint (b : Binary) (place : Int) (digits : Nat) : Nat :=
  digits * Nat.pow 10 place.toNat * Nat.pow 2 (2 - b.exponent).toNat

/-- Whether `digits * 10 ^ place` lies in the interval of numbers that round to the double: half
way to either neighbour, the ends included when the mantissa is even. -/
def roundsBack (b : Binary) (place : Int) (digits : Nat) : Bool :=
  let low := b.scaled place (4 * b.mantissa - if b.narrowBelow then 1 else 2)
  let high := b.scaled place (4 * b.mantissa + 2)
  let point := b.gridPoint place digits
  if b.mantissa % 2 = 0 then low ≤ point && point ≤ high else low < point && point < high

/-- The point of the grid of multiples of `10 ^ place` that reads back, the nearer one if the
points on both sides do, and the even one if they are equally near. -/
def onGrid? (b : Binary) (place : Int) : Option Nat :=
  let value := b.scaled place (4 * b.mantissa)
  let unit := b.gridPoint place 1
  let below := value / unit
  match b.roundsBack place below, b.roundsBack place (below + 1) with
  | false, false => none
  | true, false => some below
  | false, true => some (below + 1)
  | true, true =>
    let twice := 2 * (value % unit)
    some (if twice < unit || (twice = unit && below % 2 = 0) then below else below + 1)

/-- The exponent of the leading digit, searched downwards. -/
def leadingPlace (b : Binary) : Nat → Int → Int
  | 0, place => place
  | steps + 1, place =>
    if b.gridPoint place 1 ≤ b.scaled place (4 * b.mantissa) then place
    else leadingPlace b steps (place - 1)

/-- The digits and the place of the coarsest grid with a point that reads back, from a place
downwards. -/
def shortestFrom (b : Binary) : Nat → Int → Nat × Int
  | 0, place => (b.scaled place (4 * b.mantissa) / b.gridPoint place 1, place)
  | steps + 1, place =>
    match b.onGrid? place with
    | some digits => (digits, place)
    | none => shortestFrom b steps (place - 1)

/-- The shortest decimal number that reads back: its digits and the place of the last one. -/
def shortest (b : Binary) : Nat × Int := b.shortestFrom 17 (b.leadingPlace 640 309)

end Binary

/-! ## The text of a double -/

/-- Drops the zeros at the end of a number: its other digits, and how many were dropped. -/
def dropZeros : Nat → Nat → Nat × Nat
  | 0, n => (n, 0)
  | steps + 1, n =>
    if n % 10 = 0 then
      let (m, dropped) := dropZeros steps (n / 10)
      (m, dropped + 1)
    else (n, 0)

/-- Digits of which the first stands at the place `10 ^ lead`. -/
def layout (digits : List Char) (lead : Int) : List Char :=
  let count := digits.length
  if 0 ≤ lead && lead < 16 then
    let whole := lead.toNat + 1
    let padded := digits ++ List.replicate (whole - count) '0'
    padded.take whole ++ '.' :: (if count ≤ whole then ['0'] else padded.drop whole)
  else if -5 ≤ lead && lead < 0 then
    '0' :: '.' :: List.replicate (-lead - 1).toNat '0' ++ digits
  else
    let fraction := if count ≤ 1 then [] else '.' :: digits.drop 1
    digits.take 1 ++ fraction ++ 'e' :: (if lead < 0 then '-' else '+') ::
      Nat.toDigits 10 lead.natAbs

/-- The text of a finite double. -/
def text (d : Double) : List Char :=
  let sign := if d.bits >>> 63 = 1 then ['-'] else []
  let b := d.binary
  if b.mantissa = 0 then sign ++ ['0', '.', '0']
  else
    let (n, place) := b.shortest
    let (m, dropped) := dropZeros 20 n
    let digits := Nat.toDigits 10 m
    sign ++ layout digits (place + dropped + digits.length - 1)

end Double

end TrackerGuard.Json
