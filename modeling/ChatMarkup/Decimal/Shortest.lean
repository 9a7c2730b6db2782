import ChatMarkup.Text.Numeral

namespace ChatMarkup.Decimal

/-- A positive number `mantissa · 2 ^ exponent`, with the numbers that read back as it: those from
`below` quarters of the last place under it to two quarters above, the ends included if the mantissa
is even. -/
structure Binary where
  mantissa : Nat
  exponent : Int
  below : Nat
  deriving DecidableEq, Repr, Inhabited

namespace Binary

/-- The bit of a mantissa that is not stored, above fifty-two that are. -/
def hiddenBit : Nat := 0x10000000000000

/-- The number whose sixty-four bits, the sign apart, are given. -/
def ofBits (bits : Nat) : Binary :=
  let fraction := bits % hiddenBit
  let place : Nat := bits / hiddenBit % 0x800
  if place = 0 then ⟨fraction, -1074, 2⟩
  else ⟨fraction + hiddenBit, (place : Int) - 1075, if fraction = 0 ∧ 1 < place then 1 else 2⟩

/-- A number of quarters of the last place, divided by `10 ^ grid`, as a fraction. -/
def onGrid (b : Binary) (grid : Int) (quarters : Nat) : Nat × Nat :=
  let twos := b.exponent - 2
  (quarters * Nat.pow 2 twos.toNat * Nat.pow 10 (-grid).toNat,
    Nat.pow 2 (-twos).toNat * Nat.pow 10 grid.toNat)

/-- Whether `digits · 10 ^ grid` reads back as the number. -/
def Within (b : Binary) (grid : Int) (digits : Nat) : Prop :=
  let low := b.onGrid grid (4 * b.mantissa - b.below)
  let high := b.onGrid grid (4 * b.mantissa + 2)
  if b.mantissa % 2 = 0 then low.1 ≤ digits * low.2 ∧ digits * high.2 ≤ high.1
  else low.1 < digits * low.2 ∧ digits * high.2 < high.1

instance (b : Binary) (grid : Int) (digits : Nat) : Decidable (b.Within grid digits) := by
  unfold Within
  infer_instance

/-- The point of a grid that reads back and is nearest to the number, if there is one; of two that
are equally near, the upper one. -/
def pointOn? (b : Binary) (grid : Int) : Option Nat :=
  let (n, d) := b.onGrid grid (4 * b.mantissa)
  let down := n / d
  let upIsNearer := decide (d ≤ 2 * (n % d))
  if b.Within grid down ∧ (upIsNearer = false ∨ ¬ b.Within grid (down + 1)) then some down
  else if b.Within grid (down + 1) then some (down + 1)
  else none

/-- Looks for digits that read back on grids that are finer and finer, `tries` of them. -/
def shortestFrom? (b : Binary) (grid : Int) : Nat → Option (Nat × Int)
  | 0 => none
  | tries + 1 =>
    match b.pointOn? grid with
    | some digits => some (digits, grid)
    | none => shortestFrom? b (grid - 1) tries

/-- Decimals with this many places reach below every number of sixty-four bits. -/
def places : Nat := 400

/-- The place of the first digit: the number is at least ten to this power. -/
def firstPlace (b : Binary) : Int :=
  let (n, d) := b.onGrid (-places) (4 * b.mantissa)
  ((Text.ofNat (n / d)).length : Int) - 1 - places

/-- The fewest digits that read back, and the place of the last one, which is no zero. -/
def shortest (b : Binary) : Nat × Int :=
  let (digits, place) := (b.shortestFrom? b.firstPlace 17).getD (0, 0)
  if digits % 10 = 0 then (digits / 10, place + 1) else (digits, place)

end Binary

def positional (digits : Nat) (place : Int) : Text :=
  if 0 ≤ place then Text.ofNat digits ++ List.replicate place.toNat '0'
  else
    let t := Text.ofNat digits
    let places := (-place).toNat
    let t := List.replicate (places + 1 - t.length) '0' ++ t
    t.take (t.length - places) ++ '.' :: t.drop (t.length - places)

def signBit : Nat := 0x8000000000000000

def text (x : Float) : Text :=
  let bits := x.toBits.toNat
  let sign := if bits < signBit then [] else ['-']
  if x.isNaN then "NaN".toList
  else if x.isInf then sign ++ "inf".toList
  else if bits % signBit = 0 then sign ++ ['0']
  else
    let (digits, place) := (Binary.ofBits bits).shortest
    sign ++ positional digits place

/-- The number of sixty-four bits nearest to `mantissa · 10 ^ exponent`; what lies far outside their
range is infinite or zero. -/
def nearest (mantissa : Nat) (exponent : Int) : Float :=
  let first := exponent + (Text.ofNat mantissa).length
  if mantissa = 0 ∨ first < -400 then 0
  else if 400 < first then 1 / 0
  else Float.ofScientific mantissa (exponent < 0) exponent.natAbs

end ChatMarkup.Decimal
