import LanguageHost.Number.Binary64

/-!
# Shortest decimal text of a double

Of all decimals that read back as a given double, the one with the fewest digits is written, and of
several of that length the nearest; an exact tie goes to the even last digit. It is found on the
decimal grids of one, two and up to seventeen digits: on each grid only the two neighbours of the
exact value can be nearest to it, so the first grid on which a neighbour reads back decides.

Numbers are written positionally while the first digit stands between the fourth place after the
point and the sixteenth before it, and with an exponent of two digits or more otherwise.
-/

namespace LanguageHost

/-- The number `digits * 10 ^ scale`. -/
structure Decimal where
  digits : Nat
  scale : Int
  deriving DecidableEq, Repr

namespace Decimal

/-- The same number without zeros at the end of its digits; at most `fuel` zeros are dropped. -/
def trimZeros : Nat → Decimal → Decimal
  | 0, d => d
  | fuel + 1, d =>
    if d.digits % 10 = 0 && d.digits != 0 then trimZeros fuel ⟨d.digits / 10, d.scale + 1⟩ else d

/-- The decimal exponent of the first digit. -/
def leadingExponent (d : Decimal) : Int :=
  ((Nat.toDigits 10 d.digits).length : Int) - 1 + d.scale

/-- Digits and point without an exponent, with at least one digit on either side of the point. -/
def positional (d : Decimal) : List Char :=
  let ds := Nat.toDigits 10 d.digits
  let point := (ds.length : Int) + d.scale
  if point ≤ 0 then '0' :: '.' :: List.replicate (-point).toNat '0' ++ ds
  else if 0 ≤ d.scale then ds ++ List.replicate d.scale.toNat '0' ++ ['.', '0']
  else ds.take point.toNat ++ '.' :: ds.drop point.toNat

/-- One digit, the rest after a point if there is a rest, and the exponent with its sign. -/
def scientific (d : Decimal) : List Char :=
  let ds := Nat.toDigits 10 d.digits
  let e := d.leadingExponent
  let power := Nat.toDigits 10 e.natAbs
  let power := if power.length < 2 then '0' :: power else power
  let fraction := if ds.length = 1 then [] else '.' :: ds.drop 1
  ds.take 1 ++ fraction ++ 'e' :: (if e < 0 then '-' else '+') :: power

/-- Positional from the exponent -4 up to 15, with an exponent outside. -/
def text (d : Decimal) : List Char :=
  let e := d.leadingExponent
  if -4 ≤ e && e < 16 then d.positional else d.scientific

end Decimal

namespace Binary64

/-- The largest `k` with `10 ^ k ≤ num / den`, searched downward from a bound. -/
def decimalMagnitude (num den : Nat) : Nat → Int → Int
  | 0, k => k
  | fuel + 1, k =>
    let reached : Bool :=
      if 0 ≤ k then den * Nat.pow 10 k.toNat ≤ num else den ≤ num * Nat.pow 10 (-k).toNat
    if reached then k else decimalMagnitude num den fuel (k - 1)

/-- The two neighbours of `num / den` on the grid of multiples of `10 ^ scale`, the nearer first;
of two equally near ones the even one comes first. -/
def gridNeighbours (num den : Nat) (scale : Int) : Nat × Nat :=
  let (n, d) :=
    if 0 ≤ scale then (num, den * Nat.pow 10 scale.toNat)
    else (num * Nat.pow 10 (-scale).toNat, den)
  let below := n / d
  let isAboveFirst := d < 2 * (n % d) || (d = 2 * (n % d) && below % 2 = 1)
  if isAboveFirst then (below + 1, below) else (below, below + 1)

/-- The nearest neighbour that reads back on the first of the grids of `10 ^ scale`,
`10 ^ (scale - 1)` and so on that has one. -/
def shortestFrom (x : Binary64) (num den : Nat) : Nat → Int → Decimal
  | 0, scale => ⟨(gridNeighbours num den scale).1, scale⟩
  | fuel + 1, scale =>
    let (nearer, farther) := gridNeighbours num den scale
    if ofDecimal false nearer scale = x then ⟨nearer, scale⟩
    else if ofDecimal false farther scale = x then ⟨farther, scale⟩
    else shortestFrom x num den fuel (scale - 1)

/-- The shortest decimal that reads back as a positive finite double. -/
def shortest (significand : Nat) (exponent : Int) : Decimal :=
  let (num, den) := toRatio significand exponent
  let bound := magnitude num den * 302 / 1000 + 2
  let top := decimalMagnitude num den 10 bound
  (shortestFrom (.finite false significand exponent) num den 17 top).trimZeros 20

/-- The shortest text of a finite double; the words for the other doubles are the caller's. -/
def text (nanWord infinityWord : String) : Binary64 → String
  | nan => nanWord
  | infinite negative => if negative then "-" ++ infinityWord else infinityWord
  | finite negative significand exponent =>
    let unsigned :=
      if significand = 0 then ['0', '.', '0'] else (shortest significand exponent).text
    String.ofList (if negative then '-' :: unsigned else unsigned)

end Binary64

end LanguageHost
