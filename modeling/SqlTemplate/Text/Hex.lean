/-!
# SqlTemplate.Text.Hex

Hexadecimal digits and numbers.
-/

namespace SqlTemplate.Text

def hexValue? (c : Char) : Option Nat :=
  if '0' ≤ c ∧ c ≤ '9' then some (c.toNat - 48)
  else if 'a' ≤ c ∧ c ≤ 'f' then some (c.toNat - 87)
  else if 'A' ≤ c ∧ c ≤ 'F' then some (c.toNat - 55)
  else none

/-- Reads digits after those that make up `acc`. -/
def readHexFrom (acc : Nat) : List Char → Option Nat
  | [] => some acc
  | c :: cs =>
    match hexValue? c with
    | none => none
    | some digit => readHexFrom (16 * acc + digit) cs

/-- Reads one or more digits of either case. -/
def readHex? : List Char → Option Nat
  | [] => none
  | cs => readHexFrom 0 cs

/-- The lower-case digit of a number below 16. -/
def hexDigit (n : Nat) : Char :=
  if n < 10 then Char.ofNat (48 + n) else Char.ofNat (87 + n)

/-- A number in lower-case digits without leading zeros. -/
def hexText (n : Nat) : List Char :=
  if n < 16 then [hexDigit n] else hexText (n / 16) ++ [hexDigit (n % 16)]

end SqlTemplate.Text
