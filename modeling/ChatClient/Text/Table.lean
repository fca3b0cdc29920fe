import ChatClient.Text.Blank
import ChatClient.Text.Number

/-!
Tables of characters, written as text. The words of a table are about one code point, or about a range
of them with a hyphen between its ends, in hexadecimal digits:

* `41-5A` says that the characters have the property that the table is of;
* `A8=20.308` says that the characters 20 and 308 belong to this one;
* `41-5A+61` says that 61 belongs to the first character, and the next ones to the next ones;
* `100-12E/` says that to every second character, from the first on, belongs the one after it;
* `2B0:68.266.6A` says which one belongs to the first character, to the next, and so on.
-/
namespace ChatClient.Text

/-- What belongs to the characters of a range. -/
inductive Content
  | nothing
  /-- These characters belong to each one. -/
  | same (codes : List Nat)
  /-- The last one of these characters moves along with the range. -/
  | moving (codes : List Nat)
  /-- Every second character has the one after it. -/
  | successor
  /-- Each character has one of these. -/
  | each (codes : List Nat)

/-- The code points from `low` to `high`. -/
structure Row where
  low : Nat
  high : Nat
  content : Content

abbrev Table := List Row

/-- The number that hexadecimal digits write. -/
def hexValue (cs : List Char) : Nat := (digitsFrom? 16 0 cs).getD 0

/-- A word as a range and what follows it. -/
def readRow (word : List Char) : Row :=
  let (range, rest) := word.span fun c => (hexDigit? c).isSome || c = '-'
  let low := hexValue (range.takeWhile (· ≠ '-'))
  let high := match range.dropWhile (· ≠ '-') with
    | _ :: digits => hexValue digits
    | [] => low
  let codes := (cutAll '.' (rest.drop 1)).map hexValue
  match rest with
  | '=' :: _ => ⟨low, high, .same codes⟩
  | '+' :: _ => ⟨low, high, .moving codes⟩
  | '/' :: _ => ⟨low, high, .successor⟩
  | ':' :: _ => ⟨low, low + codes.length - 1, .each codes⟩
  | _ => ⟨low, high, .nothing⟩

/-- The table that some lines write. -/
def table (lines : List String) : Table :=
  lines.flatMap fun line => (cutAll ' ' line.toList).map readRow

def Row.holds (r : Row) (code : Nat) : Bool := r.low ≤ code && code ≤ r.high

/-- What belongs to a code point, if the row holds it. -/
def Row.codes? (r : Row) (code : Nat) : Option (List Nat) :=
  if !r.holds code then none
  else
    let place := code - r.low
    match r.content with
    | .nothing => some []
    | .same codes => some codes
    | .moving codes => some (codes.dropLast ++ codes.getLast?.toList.map (· + place))
    | .successor => if place % 2 = 0 then some [code + 1] else none
    | .each codes => (codes[place]?).map fun code => [code]

/-- Whether a character is in the table. -/
def Table.holds (t : Table) (c : Char) : Bool := t.any (·.holds c.toNat)

/-- What belongs to a code point, if it is in the table. -/
def Table.codes? (t : Table) (code : Nat) : Option (List Nat) := t.findSome? (·.codes? code)

/-- The first code point to which these characters belong. -/
def Table.code? (t : Table) (codes : List Nat) : Option Nat :=
  t.findSome? fun r => (List.range' r.low (r.high + 1 - r.low)).find? fun code => r.codes? code = some codes

end ChatClient.Text
