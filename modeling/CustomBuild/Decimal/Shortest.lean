/-!
# Shortest decimals

A number that is written with a fraction or an exponent is kept to the nearest binary fraction of
53 digits.  Shown again, it has the fewest decimal digits that read back to the same binary
fraction, and of those the nearest ones; so `1.10` is shown as `1.1`.

The search compares decimals with the two halfway points around the binary fraction, in whole
numbers.  Numbers are compared by the binary fractions that they are kept to (`rank?`).
-/

namespace CustomBuild.Decimal

/-! ### Binary fractions -/

/-- A binary fraction `mantissa * 2 ^ exponent`. -/
structure Binary where
  /-- the binary digits -/
  mantissa : Nat
  /-- the power of two -/
  exponent : Int
  /-- whether the fraction below is only half as far away as the one above -/
  isNarrowBelow : Bool
deriving DecidableEq, Repr

/-- The size of the finite number that a pattern of 64 bits is. -/
def Binary.ofBits (bits : UInt64) : Binary :=
  let scale := (bits >>> 52 &&& 0x7FF).toNat
  let fraction := (bits &&& 0xFFFFFFFFFFFFF).toNat
  if scale = 0 then { mantissa := fraction, exponent := -1074, isNarrowBelow := false }
  else
    { mantissa := Nat.pow 2 52 + fraction, exponent := scale - 1075,
      isNarrowBelow := fraction = 0 && 1 < scale }

/-! ### Digits -/

/-- A decimal `digits * 10 ^ exponent`. -/
structure Digits where
  /-- the decimal digits -/
  digits : Nat
  /-- the power of ten -/
  exponent : Int
deriving DecidableEq, Repr

/-- Compares `a * 10 ^ i` with `b * 2 ^ j`. -/
def compareScaled (a : Nat) (i : Int) (b : Nat) (j : Int) : Ordering :=
  compare (a * Nat.pow 10 i.toNat * Nat.pow 2 (-j).toNat)
    (b * Nat.pow 2 j.toNat * Nat.pow 10 (-i).toNat)

/-- **Whether a decimal reads back** to a binary fraction: it lies between the halfway points, which
belong to the fraction when its mantissa is even. -/
def Binary.readsBack (b : Binary) (d : Digits) : Bool :=
  -- in quarters of a unit, the halfway points are whole numbers
  let low := 4 * b.mantissa - (if b.isNarrowBelow then 1 else 2)
  let high := 4 * b.mantissa + 2
  let isClosed := b.mantissa % 2 = 0
  let fromLow := compareScaled d.digits d.exponent low (b.exponent - 2)
  let fromHigh := compareScaled d.digits d.exponent high (b.exponent - 2)
  (fromLow == .gt || (isClosed && fromLow == .eq))
    && (fromHigh == .lt || (isClosed && fromHigh == .eq))

/-- The whole part of `b / 10 ^ scale`. -/
def Binary.wholePart (b : Binary) (scale : Int) : Nat :=
  b.mantissa * Nat.pow 2 b.exponent.toNat * Nat.pow 10 (-scale).toNat
    / (Nat.pow 2 (-b.exponent).toNat * Nat.pow 10 scale.toNat)

/-- The number of decimal digits before the point of a binary fraction; for a fraction below one
tenth it is negative. -/
def Binary.magnitude (b : Binary) : Int :=
  (Nat.toDigits 10 (b.wholePart (-400))).length - 400

/-- The multiple of `10 ^ scale` that reads back to a binary fraction, if there is one; of the two
neighbours of the fraction the nearer one goes first, and of two that are equally near the even
one. -/
def Binary.onGrid? (b : Binary) (scale : Int) : Option Digits :=
  let below : Digits := { digits := b.wholePart scale, exponent := scale }
  let above : Digits := { digits := below.digits + 1, exponent := scale }
  let middle := compareScaled (2 * below.digits + 1) scale (2 * b.mantissa) b.exponent
  let isBelowNearer := middle == .gt || (middle == .eq && below.digits % 2 == 0)
  (if isBelowNearer then [below, above] else [above, below]).find? b.readsBack

/-- Moves trailing zeros of the digits into the exponent; `count` bounds their number. -/
def Digits.stripped : Nat → Digits → Digits
  | 0, d => d
  | count + 1, d =>
    if d.digits ≠ 0 && d.digits % 10 = 0 then
      stripped count { digits := d.digits / 10, exponent := d.exponent + 1 }
    else d

/-- **The fewest digits that read back** to a binary fraction: the coarsest grid with a multiple
that does.  Seventeen digits always suffice. -/
def Binary.shortest (b : Binary) : Digits :=
  let finest := b.magnitude - 17
  let found := (List.range 17).findSome? fun (count : Nat) => b.onGrid? (finest + (16 - count))
  (found.getD { digits := b.wholePart finest, exponent := finest }).stripped 20

/-! ### Layout -/

/-- Lays out digits: positionally if the point falls within sixteen digits or at most four zeros
stand in front, and otherwise with an exponent of at least two digits. -/
def Digits.layout (d : Digits) : String :=
  let digits := Nat.toDigits 10 d.digits
  let point : Int := digits.length + d.exponent
  let zeros (count : Int) : List Char := List.replicate count.toNat '0'
  if -4 < point && point ≤ 16 then
    let whole := digits.take point.toNat ++ zeros (point - digits.length)
    let fraction := zeros (-point) ++ digits.drop point.toNat
    String.ofList
      ((if whole.isEmpty then ['0'] else whole) ++ '.' ::
        (if fraction.isEmpty then ['0'] else fraction))
  else
    let exponent := point - 1
    let mantissa := match digits with
      | first :: second :: rest => first :: '.' :: second :: rest
      | single => single
    let power := Nat.toDigits 10 exponent.natAbs
    String.ofList
      (mantissa ++ ['e', if exponent < 0 then '-' else '+']
        ++ List.replicate (2 - power.length) '0' ++ power)

/-! ### Reading -/

/-- Whether a character is one of the ten digits. -/
def isDigit (c : Char) : Bool :=
  48 ≤ c.toNat && c.toNat ≤ 57

/-- The number that a list of digits writes. -/
def digitsValue (digits : List Char) : Nat :=
  digits.foldl (fun n c => 10 * n + (c.toNat - 48)) 0

/-- The integer that a sign and digits write. -/
def signedValue : List Char → Int
  | '-' :: digits => -(digitsValue digits : Int)
  | '+' :: digits => digitsValue digits
  | digits => digitsValue digits

/-- The digits that a number writes, without its sign. -/
def digitsOf (cs : List Char) : Digits :=
  let whole := cs.takeWhile isDigit
  let afterWhole := cs.dropWhile isDigit
  let fraction := match afterWhole with
    | '.' :: rest => rest.takeWhile isDigit
    | _ => []
  let exponent := (afterWhole.dropWhile fun c => c == '.' || isDigit c).drop 1
  { digits := digitsValue (whole ++ fraction),
    exponent := signedValue exponent - fraction.length }

/-- The binary fraction nearest to a decimal; `none` if it is beyond all of them. -/
def Digits.toBinary? (d : Digits) : Option Binary :=
  let magnitude : Int := (Nat.toDigits 10 d.digits).length + d.exponent
  -- far outside of the range of binary fractions the powers of ten are not worked out
  if d.digits = 0 || magnitude < -400 then some (Binary.ofBits 0)
  else if 400 < magnitude then none
  else
    let value := Float.ofScientific d.digits (d.exponent < 0) d.exponent.natAbs
    if value.isInf then none else some (Binary.ofBits value.toBits)

/-- The display of the size of a number; a number beyond all binary fractions is infinite. -/
def sizeText (cs : List Char) : String :=
  match (digitsOf cs).toBinary? with
  | none => "inf"
  | some b => if b.mantissa = 0 then "0.0" else b.shortest.layout

/-- **The display of a number** that is written with a fraction or an exponent, or that is one of
the named numbers. -/
def display (literal : String) : String :=
  if literal == "NaN" then "nan"
  else if literal == "Infinity" then "inf"
  else if literal == "-Infinity" then "-inf"
  else match literal.toList with
    | '-' :: cs => "-" ++ sizeText cs
    | cs => sizeText cs

/-! ### Comparing -/

/-- The number of units in the number one.  The smallest binary fraction is the unit, and every
other one is a multiple of it. -/
def unitsInOne : Nat := Nat.pow 2 1074

/-- The units of a binary fraction. -/
def Binary.units (b : Binary) : Nat :=
  b.mantissa * Nat.pow 2 (b.exponent + 1074).toNat

/-- Where a number stands among all numbers: the infinite ones at the two ends, and the others by
their units. -/
structure Rank where
  /-- below the finite numbers, among them or above them -/
  side : Int
  /-- the units of a finite number -/
  units : Int
deriving DecidableEq, Repr

/-- Whether a number is at most as great as another. -/
def Rank.le (a b : Rank) : Bool :=
  a.side < b.side || (a.side = b.side && a.units ≤ b.units)

/-- The rank of an integer. -/
def Rank.ofInt (value : Int) : Rank where
  side := 0
  units := value * unitsInOne

/-- The rank of the size of a number. -/
def sizeRank (cs : List Char) : Rank :=
  match (digitsOf cs).toBinary? with
  | some b => { side := 0, units := b.units }
  | none => { side := 1, units := 0 }

/-- **The rank of a number** that is written with a fraction or an exponent, or that is one of the
named numbers; what is not a number has none. -/
def rank? (literal : String) : Option Rank :=
  if literal == "NaN" then none
  else if literal == "Infinity" then some { side := 1, units := 0 }
  else match literal.toList with
    | '-' :: cs =>
      if literal == "-Infinity" then some { side := -1, units := 0 }
      else
        let size := sizeRank cs
        some { side := -size.side, units := -size.units }
    | cs => some (sizeRank cs)

/-- Whether such a number is zero. -/
def isZero (literal : String) : Bool :=
  rank? literal = some (Rank.ofInt 0)

end CustomBuild.Decimal
