/-!
Whole numbers in text: an optional plus sign, then digits, below a limit. Ports, ages and the
positions in a history list are all written like this.
-/
namespace ChatClient.Text

/-- The value of a decimal digit. -/
def digit? (c : Char) : Option Nat :=
  if '0' ≤ c ∧ c ≤ '9' then some (c.toNat - '0'.toNat) else none

/-- The value of a hexadecimal digit, in either case. -/
def hexDigit? (c : Char) : Option Nat :=
  if '0' ≤ c ∧ c ≤ '9' then some (c.toNat - '0'.toNat)
  else if 'a' ≤ c ∧ c ≤ 'f' then some (c.toNat - 'a'.toNat + 10)
  else if 'A' ≤ c ∧ c ≤ 'F' then some (c.toNat - 'A'.toNat + 10)
  else none

/-- The number written by `cs` after the digits of `acc`, if all of `cs` are digits of the base. -/
def digitsFrom? (base acc : Nat) : List Char → Option Nat
  | [] => some acc
  | c :: cs => do
    let d ← hexDigit? c
    if d < base then digitsFrom? base (acc * base + d) cs else none

/-- The number written by one digit or more. -/
def digits? (base : Nat) (cs : List Char) : Option Nat :=
  if cs.isEmpty then none else digitsFrom? base 0 cs

/-- A number below `limit`. A plus sign may stand in front, a minus sign may not. -/
def number? (limit : Nat) (s : String) : Option Nat := do
  let digits := match s.toList with
    | '+' :: cs => cs
    | cs => cs
  let n ← digits? 10 digits
  if n < limit then some n else none

/-- The least number that needs more than some bits. -/
def limit (bits : Nat) : Nat := Nat.pow 2 bits

/-- Ports and small counts have sixteen bits. -/
def limit16 : Nat := limit 16

def limit32 : Nat := limit 32

def limit64 : Nat := limit 64

/-- A digit of a base up to sixteen, small letters above nine. -/
def digitChar (d : Nat) : Char :=
  if d < 10 then Char.ofNat ('0'.toNat + d) else Char.ofNat ('a'.toNat + d - 10)

/-- The low `width` digits of `n` in a base. -/
def fixedDigits (base : Nat) : (width : Nat) → (n : Nat) → List Char
  | 0, _ => []
  | width + 1, n => fixedDigits base width (n / base) ++ [digitChar (n % base)]

end ChatClient.Text
