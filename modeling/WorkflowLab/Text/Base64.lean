/-!
# Base64

Bytes as text in groups of four letters, filled up with `=`.

- `encode`: three bytes become four letters;
- `decode?`: the inverse reading.
-/

namespace WorkflowLab.Text.Base64

/-- The letters of the alphabet, by value. -/
def alphabet : List Char :=
  "ABCDEFGHIJKLMNOPQRSTUVWXYZabcdefghijklmnopqrstuvwxyz0123456789+/".toList

/-- The letter of a six-bit value. -/
def letter (n : Nat) : Char := alphabet.getD (n % 64) '='

/-- The six-bit value of a letter. -/
def letterValue? (c : Char) : Option Nat :=
  if 'A' ≤ c ∧ c ≤ 'Z' then some (c.toNat - 65)
  else if 'a' ≤ c ∧ c ≤ 'z' then some (c.toNat - 71)
  else if '0' ≤ c ∧ c ≤ '9' then some (c.toNat + 4)
  else if c = '+' then some 62
  else if c = '/' then some 63
  else none

/-- The base64 text of some bytes. -/
def encode : List UInt8 → List Char
  | [] => []
  | [a] =>
    let n := a.toNat * 65536
    [letter (n / 262144), letter (n / 4096), '=', '=']
  | [a, b] =>
    let n := a.toNat * 65536 + b.toNat * 256
    [letter (n / 262144), letter (n / 4096), letter (n / 64), '=']
  | a :: b :: c :: rest =>
    let n := a.toNat * 65536 + b.toNat * 256 + c.toNat
    letter (n / 262144) :: letter (n / 4096) :: letter (n / 64) :: letter n :: encode rest

/-- The byte at a position of a 24-bit group. -/
def byteAt (group weight : Nat) : UInt8 := UInt8.ofNat (group / weight % 256)

/-- Reads base64 text; `none` when it is not in groups of four letters. -/
def decode? : List Char → Option (List UInt8)
  | [] => some []
  | [p, q, '=', '='] => do
    let n := (← letterValue? p) * 262144 + (← letterValue? q) * 4096
    return [byteAt n 65536]
  | [p, q, r, '='] => do
    let n := (← letterValue? p) * 262144 + (← letterValue? q) * 4096 + (← letterValue? r) * 64
    return [byteAt n 65536, byteAt n 256]
  | p :: q :: r :: s :: rest => do
    let n := (← letterValue? p) * 262144 + (← letterValue? q) * 4096 + (← letterValue? r) * 64
      + (← letterValue? s)
    return byteAt n 65536 :: byteAt n 256 :: byteAt n 1 :: (← decode? rest)
  | _ => none

end WorkflowLab.Text.Base64
