import WorkflowLab.Number.Binary

/-!
# Numbers

A number is an integer of any size or a double.

- `Number`: the two forms, kept apart;
- `Number.compare?`: the exact order of integers and doubles together (`none` beside a number that is not one);
- `Number.add?`, `sub?`, `mul?`, `div?`: arithmetic, where an integer that meets a double becomes one, and a quotient
  of integers is the double nearest to it; `none` when an integer or a quotient of integers is too large for a double;
- `Number.floor?`: the greatest integer not above a number.
-/

namespace WorkflowLab

/-- An integer or a double. -/
inductive Number where
  | int (n : Int)
  | float (x : Float)
deriving Repr

namespace Number

instance : OfNat Number n := ⟨.int n⟩

instance : Inhabited Number := ⟨.int 0⟩

/-- Exact comparison of two doubles. -/
def compareFloat (x y : Float) : Option Ordering :=
  if x < y then some .lt
  else if x == y then some .eq
  else if y < x then some .gt
  else none

/-- The order of two numbers by value, whatever their form. -/
def compare? : Number → Number → Option Ordering
  | .int a, .int b => some (compare a b)
  | .int a, .float y => Binary.compareInt a y
  | .float x, .int b => (Binary.compareInt b x).map Ordering.swap
  | .float x, .float y => compareFloat x y

/-- Equality by value. -/
def same (a b : Number) : Bool := a.compare? b == some .eq

/-- Less than, by value. -/
def less (a b : Number) : Bool := a.compare? b == some .lt

/-- At most, by value. -/
def atMost (a b : Number) : Bool := a.less b || a.same b

/-- Zero of either form. -/
def isZero (a : Number) : Bool := a.same (.int 0)

/-- The number as a double; `none` for an integer that is too large. -/
def toFloat? : Number → Option Float
  | .int n => Binary.ofInt? n
  | .float x => some x

/-- Applies an operation on integers, or its counterpart on doubles as soon as one operand is a double. -/
def combine (ints : Int → Int → Int) (floats : Float → Float → Float) : Number → Number → Option Number
  | .int a, .int b => some (.int (ints a b))
  | a, b => do return .float (floats (← a.toFloat?) (← b.toFloat?))

/-- The sum. -/
def add? : Number → Number → Option Number := combine (· + ·) (· + ·)

/-- The difference. -/
def sub? : Number → Number → Option Number := combine (· - ·) (· - ·)

/-- The product. -/
def mul? : Number → Number → Option Number := combine (· * ·) (· * ·)

/-- The quotient by a number that is not zero, as a double. -/
def div? : Number → Number → Option Number
  | .int a, .int b =>
    (Binary.ofRatio? a.natAbs b.natAbs).map fun q =>
      .float (Binary.signed (decide (a < 0) != decide (b < 0)) q)
  | a, b => do return .float ((← a.toFloat?) / (← b.toFloat?))

/-- The greatest integer not above the number; `none` when there is none. -/
def floor? : Number → Option Int
  | .int n => some n
  | .float x => Binary.floor? x

end Number

end WorkflowLab
