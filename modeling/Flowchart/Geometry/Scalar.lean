/-!
Numbers for geometry. Everything that positions nodes is written over a type of scalars, so that
it runs on doubles and can be reasoned about over exact rationals.
-/

namespace Flowchart

/-- What geometry needs to know about its numbers. -/
class Scalar (K : Type) extends Add K, Sub K, Mul K, Div K, Neg K, LT K, LE K, BEq K where
  ofNat : Nat → K
  decideLT : (x y : K) → Decidable (x < y)
  decideLE : (x y : K) → Decidable (x ≤ y)
  /-- Whether the vector with the two components is shorter than the length. -/
  shorter : K → K → K → Bool
  /-- Whether there are numbers beyond a number. -/
  isBounded : K → Bool

namespace Scalar

variable {K : Type} [Scalar K]

instance (x y : K) : Decidable (x < y) := decideLT x y

instance (x y : K) : Decidable (x ≤ y) := decideLE x y

instance : Inhabited K := ⟨ofNat 0⟩

/-- The number zero. -/
def zero : K := ofNat 0

/-- Half of a number. -/
def half (x : K) : K := x / ofNat 2

/-- The smaller of two numbers, the first if neither is smaller. -/
def least (x y : K) : K := if y < x then y else x

/-- The greater of two numbers, the first if neither is greater. -/
def greatest (x y : K) : K := if x < y then y else x

/-- The smallest of a number and further ones. -/
def leastOf (first : K) (others : List K) : K :=
  others.foldl least first

/-- The greatest of a number and further ones. -/
def greatestOf (first : K) (others : List K) : K :=
  others.foldl greatest first

/-- The numbers from a given one on in which each is followed by a number that may follow it, and
the numbers after them. -/
def cutRun (mayFollow : K → K → Bool) (first : K) : List K → List K × List K
  | [] => ([first], [])
  | next :: rest =>
    if mayFollow first next then
      let (run, left) := cutRun mayFollow next rest
      (first :: run, left)
    else ([first], next :: rest)

/-- The place of a number among sorted ones, between two bounds, found by halving. Equal numbers
stand before it. -/
def placeAmong (numbers : Array K) (x : K) (low high : Nat) : Nat :=
  if low < high then
    let middle := low + (high - low) / 2
    if x < numbers.getD middle zero then placeAmong numbers x low middle
    else placeAmong numbers x (middle + 1) high
  else low
termination_by high - low

/-- Insert a number among sorted ones. -/
def insert (numbers : List K) (x : K) : List K :=
  let place := placeAmong numbers.toArray x 0 numbers.length
  numbers.take place ++ x :: numbers.drop place

/-- Numbers from the smallest to the greatest: what rises or falls at the front is kept or turned
around, and each later number is inserted. The way to the order matters only for numbers that
cannot be compared. -/
def sorted : List K → List K
  | first :: second :: rest =>
    if second < first then
      let (run, left) := cutRun (fun x y => decide (y < x)) second rest
      left.foldl insert (first :: run).reverse
    else
      let (run, left) := cutRun (fun x y => !decide (y < x)) second rest
      left.foldl insert (first :: run)
  | numbers => numbers

end Scalar

/-- Exact arithmetic. A length is compared through its square. -/
instance : Scalar Rat where
  ofNat n := (n : Rat)
  decideLT _ _ := inferInstance
  decideLE _ _ := inferInstance
  shorter dx dy length := decide (0 < length) && decide (dx * dx + dy * dy < length * length)
  isBounded _ := true

/-- A point of the page. -/
structure Point (K : Type) where
  x : K
  y : K
deriving Repr, Inhabited, DecidableEq

/-- The width and height of a box. -/
structure Size (K : Type) where
  width : K
  height : K
deriving Repr, Inhabited, DecidableEq

end Flowchart
