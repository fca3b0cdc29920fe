import ChatClient.Json.Writer
import ChatClient.Text.Quoted
import ChatClient.Yaml.Scalar

/-!
What plain scalars mean: null, truth values, whole numbers in four bases, floats, and text. A number in
base ten with zeros in front is text.
-/
namespace ChatClient.Yaml

def isNull (s : String) : Bool := ["null", "Null", "NULL", "~"].contains s

def bool? (s : String) : Option Bool :=
  if ["true", "True", "TRUE"].contains s then some true
  else if ["false", "False", "FALSE"].contains s then some false
  else none

def startsSigned (cs : List Char) : Bool := cs.head? = some '+' || cs.head? = some '-'

/-- More than one digit, with a zero in front, after a sign or without. -/
def isZeroPadded (cs : List Char) : Bool :=
  let digits := if startsSigned cs then cs.drop 1 else cs
  1 < digits.length && digits.head? = some '0' && digits.all (Text.digit? · |>.isSome)

/-- Digits after the mark of their base, or in base ten. -/
def baseDigits? (cs : List Char) : Option Nat :=
  match cs with
  | '0' :: 'x' :: rest => Text.digits? 16 rest
  | '0' :: 'o' :: rest => Text.digits? 8 rest
  | '0' :: 'b' :: rest => Text.digits? 2 rest
  | cs => if isZeroPadded cs then none else Text.digits? 10 cs

/-- A whole number without a minus sign. -/
def natural? (s : String) : Option Nat :=
  match s.toList with
  | '+' :: rest => baseDigits? rest
  | cs => baseDigits? cs

/-- A whole number with a minus sign: its amount. -/
def negative? (s : String) : Option Nat :=
  match s.toList with
  | '-' :: rest => baseDigits? rest
  | _ => none

/-- A decimal number: digits with a point among them or around them, and an exponent. -/
def decimal? (cs : List Char) : Option Float :=
  let isDigit (c : Char) : Bool := (Text.digit? c).isSome
  let (whole, rest) := cs.span isDigit
  let (fraction, rest) := match rest with
    | '.' :: rest => rest.span isDigit
    | rest => ([], rest)
  let exponent : Option Int := match rest with
    | [] => some 0
    | e :: rest =>
      if e = 'e' ∨ e = 'E' then
        match rest with
        | '-' :: rest => (Text.digits? 10 rest).map fun n => -(n : Int)
        | '+' :: rest => (Text.digits? 10 rest).map Int.ofNat
        | rest => (Text.digits? 10 rest).map Int.ofNat
      else none
  match Text.digits? 10 (whole ++ fraction), exponent with
  | some n, some e =>
    let places := e - fraction.length
    let places := max (-100000) (min 100000 places)
    some (Float.ofScientific n (places < 0) places.natAbs)
  | _, _ => none

/-- A float, which may be infinite or no number only by name. -/
def float? (s : String) : Option Float :=
  let cs := s.toList
  let unsigned := if cs.head? = some '+' then cs.drop 1 else cs
  let infinities := [".inf", ".Inf", ".INF"]
  if cs.head? = some '+' && startsSigned unsigned then none
  else if infinities.contains (String.ofList unsigned) then some (1.0 / 0.0)
  else if cs.head? = some '-' && infinities.contains (String.ofList (cs.drop 1)) then some (-1.0 / 0.0)
  else if [".nan", ".NaN", ".NAN"].contains s then some (0.0 / 0.0)
  else
    let amount := if startsSigned unsigned then unsigned.drop 1 else unsigned
    match decimal? amount with
    | some f => if f.isFinite then some (if startsSigned unsigned then -f else f) else none
    | none => none

/-- A float with all its digits, and a point among them. -/
def floatText (f : Float) : String :=
  if f.isNaN then "NaN"
  else if f.isInf then if f < 0 then "-inf" else "inf"
  else
    let sign := if f.toBits.toNat < Text.limit 63 then "" else "-"
    let (n, exponent) := Decimal.shortestDigits f.abs
    let digits := Nat.toDigits 10 n
    let shown :=
      if n = 0 then ['0', '.', '0']
      else if 0 ≤ exponent then digits ++ List.replicate exponent.toNat '0' ++ ['.', '0']
      else
        let places := exponent.natAbs
        let digits := List.replicate (places + 1 - digits.length) '0' ++ digits
        digits.take (digits.length - places) ++ '.' :: digits.drop (digits.length - places)
    sign ++ String.ofList shown

/-- A whole number in words, unless it is too large for one of 128 bits. -/
def wholeKind? (s : String) : Option String :=
  let words (number : String) (width : String) : String := "integer \x60" ++ number ++ "\x60" ++ width
  match natural? s, negative? s with
  | some amount, _ =>
    if amount < Text.limit64 then some (words (toString amount) "")
    else if amount < Text.limit 128 then some (words (toString amount) " as u128") else none
  | none, some amount =>
    let number := if amount = 0 then "0" else "-" ++ toString amount
    if amount ≤ Text.limit 63 then some (words number "")
    else if amount ≤ Text.limit 127 then some (words number " as i128") else none
  | none, none => none

/-- What a scalar is that means no text: in words, for a message. -/
def plainKind (s : String) : String :=
  if s = "" || isNull s then "unit value"
  else match bool? s, wholeKind? s with
    | some b, _ => "boolean \x60" ++ (if b then "true" else "false") ++ "\x60"
    | none, some words => words
    | none, none =>
      match if isZeroPadded s.toList then none else float? s with
      | some f => "floating point \x60" ++ floatText f ++ "\x60"
      | none => "string " ++ Text.quoted s

/-- The tags of the scalars that are no text, and what each has to be. -/
def coreTags : List (String × (String → Bool) × String) :=
  [("tag:yaml.org,2002:bool", fun s => (bool? s).isSome, "a boolean"),
   ("tag:yaml.org,2002:int", fun s => (wholeKind? s).isSome, "an integer"),
   ("tag:yaml.org,2002:float", fun s => (float? s).isSome, "a float"),
   ("tag:yaml.org,2002:null", isNull, "null")]

def mistyped (kind expected : String) : String :=
  "invalid type: " ++ kind ++ ", expected " ++ expected

def misvalued (kind expected : String) : String :=
  "invalid value: " ++ kind ++ ", expected " ++ expected

/-- What is said of a scalar where something else is expected. -/
def scalarMessage (tag : Option String) (s : String) (style : Style) (expected : String) : String :=
  let text := "string " ++ Text.quoted s
  match tag with
  | none => mistyped (if style = .plain then plainKind s else text) expected
  | some tag =>
    match coreTags.find? (·.1 = tag) with
    | some (_, fits, what) =>
      if fits s then
        mistyped (if what = "a float" then "floating point \x60" ++ floatText ((float? s).getD 0) ++ "\x60"
          else plainKind s) expected
      else misvalued text what
    | none => mistyped (if tag.startsWith "!" && style = .plain then plainKind s else text) expected

end ChatClient.Yaml
