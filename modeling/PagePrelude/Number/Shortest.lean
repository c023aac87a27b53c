import PagePrelude.Number.Binary64

/-!
# The shortest decimal of a binary number

A number is written with the fewest digits that read back to it, and with the
nearest such decimal where several have that many digits. Numbers of moderate size
are written positionally and keep at least one digit after the point; others have
one digit before the point and an exponent.
-/

namespace PagePrelude.Binary64

/-- The reals that round to a number, scaled by a common factor to integers. -/
structure Basin where
  low : Nat
  value : Nat
  high : Nat
  /-- The scale: the real number is an entry divided by it. -/
  unit : Nat
  /-- Whether both ends belong to the basin. -/
  closed : Bool

/-- The basin of a nonzero number. Below a power of two the neighbour is twice as near. -/
def basin (x : Binary64) : Basin :=
  let (num, den) := (Binary64.mk false (4 * x.significand) x.exponent).ratio
  let step := num / (4 * x.significand)
  let near := x.significand = Nat.pow 2 52 && -1074 < x.exponent
  { low := num - (if near then step else 2 * step)
    value := num
    high := num + 2 * step
    unit := 4 * den
    closed := x.significand % 2 == 0 }

/-- Whether `digits * 10 ^ power` lies in the basin. -/
def Basin.holds (b : Basin) (digits : Nat) (power : Int) : Bool :=
  let (scale, point) :=
    if 0 ≤ power then (1, digits * Nat.pow 10 power.toNat * b.unit)
    else (Nat.pow 10 (-power).toNat, digits * b.unit)
  if b.closed then b.low * scale ≤ point && point ≤ b.high * scale
  else b.low * scale < point && point < b.high * scale

/-- The decimal exponent of the value: the greatest `p` with `10 ^ p` at most the value, found
from an estimate that is at most one too large. -/
def Basin.magnitude (b : Basin) : Int :=
  let estimate : Int :=
    (((Nat.log2 b.value : Int) - (Nat.log2 b.unit : Int) + 1) * 30103).fdiv 100000
  let reaches (p : Int) : Bool :=
    if 0 ≤ p then Nat.pow 10 p.toNat * b.unit ≤ b.value
    else b.unit ≤ b.value * Nat.pow 10 (-p).toNat
  if reaches (estimate + 1) then estimate + 1
  else if reaches estimate then estimate
  else estimate - 1

/-- The best decimal with `count` digits: the nearer of the value's two neighbours on that grid
among those in the basin. -/
def Basin.withDigits (b : Basin) (count : Nat) : Option (Nat × Int) :=
  let power := b.magnitude - (count : Int) + 1
  let (num, den) :=
    if 0 ≤ power then (b.value, b.unit * Nat.pow 10 power.toNat)
    else (b.value * Nat.pow 10 (-power).toNat, b.unit)
  let below := num / den
  let belowFirst := 2 * (num % den) < den || (2 * (num % den) == den && below % 2 == 0)
  let order := if belowFirst then [below, below + 1] else [below + 1, below]
  (order.find? fun digits => b.holds digits power).map fun digits => (digits, power)

/-- Moves factors of ten from the digits to the exponent. -/
def stripZeros : Nat → Nat × Int → Nat × Int
  | 0, pair => pair
  | fuel + 1, (digits, power) =>
    if digits != 0 && digits % 10 == 0 then stripZeros fuel (digits / 10, power + 1)
    else (digits, power)

/-- Digits and decimal exponent of the shortest decimal of a nonzero number. -/
def shortest (x : Binary64) : Nat × Int :=
  let found := (List.range 17).findSome? fun k => x.basin.withDigits (k + 1)
  stripZeros 20 (found.getD (0, 0))

/-- Digits of a number as a text. -/
def digitsText (n : Nat) : String :=
  String.ofList (Nat.toDigits 10 n)

/-- Zeros, as many as asked for. -/
def zeros (n : Nat) : String :=
  String.ofList (List.replicate n '0')

/-- The decimal text of a magnitude: positional while the first digit stands at most sixteen
places before the point or five after it, with an exponent beyond that. -/
def magnitudeText (x : Binary64) : String :=
  if x.significand = 0 then "0.0"
  else
    let (digits, power) := x.shortest
    let text := digitsText digits
    let point : Int := text.length + power
    if 0 ≤ power && point ≤ 16 then text ++ zeros power.toNat ++ ".0"
    else if 0 < point && point ≤ 16 then
      String.ofList (text.toList.take point.toNat) ++ "." ++
        String.ofList (text.toList.drop point.toNat)
    else if -5 < point && point ≤ 0 then "0." ++ zeros (-point).toNat ++ text
    else
      let lead := String.ofList (text.toList.take 1)
      let rest := String.ofList (text.toList.drop 1)
      (if rest = "" then lead else lead ++ "." ++ rest) ++ "e" ++ toString (point - 1)

/-- The decimal text of a number. -/
def text (x : Binary64) : String :=
  (if x.negative then "-" else "") ++ x.magnitudeText

end PagePrelude.Binary64
