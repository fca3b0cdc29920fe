import ChatClient.Json.Value
import ChatClient.Text.Number
import ChatClient.Text.Utf8

/-!
Numbers in JSON text: a minus sign, whole digits without a leading zero, a fraction, an exponent.
The significand is the number that the leading digits write, as many of them as sixty-four bits hold;
the digits after those only count as places. A float is the significand times one power of ten, or
divided by one, each rounded to the nearest float. This may miss the float nearest to the text by one
unit.
-/
namespace ChatClient.Json

open Text (Piece digit?)

/-- A number as written: its digits, and the exponent with its sign. -/
structure NumberText where
  negative : Bool
  whole : List Nat
  fraction : List Nat
  exponent : Option (Bool × List Nat)

/-- The digits at the front. -/
def takeDigits : List Piece → List Nat × List Piece
  | .char c :: rest =>
    match digit? c with
    | some d => (d :: (takeDigits rest).1, (takeDigits rest).2)
    | none => ([], .char c :: rest)
  | input => ([], input)

/-- A single zero, or digits that do not start with zero. -/
def scanWhole (input : List Piece) : Option (List Nat × List Piece) :=
  match takeDigits input with
  | ([], _) => none
  | ([0], rest) => some ([0], rest)
  | (0 :: _, _) => none
  | (digits, rest) => some (digits, rest)

/-- A point and at least one digit, or nothing. -/
def scanFraction : List Piece → Option (List Nat × List Piece)
  | .char '.' :: rest =>
    match takeDigits rest with
    | ([], _) => none
    | (digits, rest) => some (digits, rest)
  | input => some ([], input)

/-- The letter e, a sign or none, and at least one digit, or nothing. -/
def scanExponent : List Piece → Option (Option (Bool × List Nat) × List Piece)
  | .char c :: rest =>
    if c = 'e' ∨ c = 'E' then
      let (negative, rest) := match rest with
        | .char '-' :: rest => (true, rest)
        | .char '+' :: rest => (false, rest)
        | rest => (false, rest)
      match takeDigits rest with
      | ([], _) => none
      | (digits, rest) => some (some (negative, digits), rest)
    else some (none, .char c :: rest)
  | input => some (none, input)

/-- The number at the front of the input. -/
def scanNumber (input : List Piece) : Option (NumberText × List Piece) := do
  let (negative, input) := match input with
    | .char '-' :: rest => (true, rest)
    | input => (false, input)
  let (whole, input) ← scanWhole input
  let (fraction, input) ← scanFraction input
  let (exponent, input) ← scanExponent input
  some (⟨negative, whole, fraction, exponent⟩, input)

/-- The significand after more digits, and the digits that no longer fit. -/
def gather (significand : Nat) : List Nat → Nat × List Nat
  | [] => (significand, [])
  | d :: ds =>
    if significand * 10 + d < Text.limit64 then gather (significand * 10 + d) ds
    else (significand, d :: ds)

/-- The value of decimal digits. -/
def digitsValue (digits : List Nat) : Nat :=
  digits.foldl (fun n d => n * 10 + d) 0

def powerOfTen (n : Nat) : Float :=
  Float.ofScientific 1 false n

/-- The significand times a power of ten. Beyond the largest float there is no value. A quotient too
small for one division takes two, and after two nothing is left of sixty-four bits. -/
def scaled? (significand : Nat) (exponent : Int) : Option Float :=
  let f := significand.toUInt64.toFloat
  if significand = 0 then some f
  else if 308 < exponent then none
  else if 0 ≤ exponent then
    let product := f * powerOfTen exponent.toNat
    if product.isInf then none else some product
  else if -308 ≤ exponent then some (f / powerOfTen (-exponent).toNat)
  else if -616 ≤ exponent then some (f / powerOfTen 308 / powerOfTen (-exponent - 308).toNat)
  else some 0

/-- The power of ten that an exponent stands for. An exponent that does not fit thirty-two bits gives
zero, and no number if it is positive and the significand is not zero. -/
def NumberText.toFloat? (significand : Nat) (places : Int) :
    Option (Bool × List Nat) → Option Float
  | none => scaled? significand places
  | some (negative, digits) =>
    let exponent := digitsValue digits
    if Text.limit 31 ≤ exponent then if significand ≠ 0 ∧ !negative then none else some 0
    else scaled? significand (if negative then places - exponent else places + exponent)

/-- The number that a text writes, if it has a value. -/
def NumberText.value? (t : NumberText) : Option Number :=
  let (significand, more) := gather 0 t.whole
  let signed (f : Float) : Number := .float (if t.negative then -f else f)
  if more.isEmpty ∧ t.fraction.isEmpty ∧ t.exponent.isNone then
    if !t.negative then some (.integer significand)
    else if significand = 0 ∨ Text.limit 63 < significand then some (signed significand.toUInt64.toFloat)
    else some (.integer (-significand))
  else
    let (significand, left) := gather significand t.fraction
    let places : Int := more.length - (t.fraction.length - left.length : Nat)
    (toFloat? significand places t.exponent).map signed

end ChatClient.Json
