import ChatClient.Json.Value
import ChatClient.Decimal.Shortest
import ChatClient.Text.Number

/-!
Writing JSON without spaces. In strings the quote, the backslash and the control characters are
escaped, those with a letter by their letter. Members are written in the order of their keys.
-/
namespace ChatClient.Json

/-- A character inside a string. -/
def writeChar (c : Char) : List Char :=
  match c with
  | '"' => ['\\', '"']
  | '\\' => ['\\', '\\']
  | '\x08' => ['\\', 'b']
  | '\x0C' => ['\\', 'f']
  | '\n' => ['\\', 'n']
  | '\r' => ['\\', 'r']
  | '\t' => ['\\', 't']
  | c => if c.toNat < 0x20 then ['\\', 'u'] ++ Text.fixedDigits 16 4 c.toNat else [c]

def writeString (s : String) : List Char :=
  '"' :: (s.toList.flatMap writeChar ++ ['"'])

def writeInt (n : Int) : List Char :=
  match n with
  | .ofNat n => Nat.toDigits 10 n
  | .negSucc n => '-' :: Nat.toDigits 10 (n + 1)

/-- A float has a point or an exponent. The point stands among the digits, or up to five places
before them, as long as at most sixteen digits come before it; otherwise after the first digit, with
an exponent and its sign. -/
def writeFloat (f : Float) : List Char :=
  let sign : List Char := if f.toBits.toNat < Text.limit 63 then [] else ['-']
  let (n, exponent) := Decimal.shortestDigits f.abs
  let digits := Nat.toDigits 10 n
  let point : Int := digits.length + exponent
  sign ++
    if n = 0 then ['0', '.', '0']
    else if 0 ≤ exponent ∧ point ≤ 16 then
      digits ++ List.replicate exponent.toNat '0' ++ ['.', '0']
    else if 0 < point ∧ point ≤ 16 then
      digits.take point.toNat ++ '.' :: digits.drop point.toNat
    else if -5 < point ∧ point ≤ 0 then
      ['0', '.'] ++ List.replicate (-point).toNat '0' ++ digits
    else
      digits.take 1 ++ (if digits.length = 1 then [] else '.' :: digits.drop 1) ++
        'e' :: (if 0 < point then '+' :: writeInt (point - 1) else writeInt (point - 1))

def Number.write : Number → List Char
  | .integer n => writeInt n
  | .float f => writeFloat f

mutual

def Value.write : Value → List Char
  | .null => ['n', 'u', 'l', 'l']
  | .bool true => ['t', 'r', 'u', 'e']
  | .bool false => ['f', 'a', 'l', 's', 'e']
  | .number n => n.write
  | .string s => writeString s
  | .array items => '[' :: writeItems items
  | .object members => '{' :: writeMembers members

/-- The items, with commas between them, and the closing bracket. -/
def writeItems : List Value → List Char
  | [] => [']']
  | [item] => item.write ++ [']']
  | item :: items => item.write ++ ',' :: writeItems items

/-- The members, with commas between them, and the closing brace. -/
def writeMembers : List (String × Value) → List Char
  | [] => ['}']
  | [(key, value)] => writeString key ++ ':' :: (value.write ++ ['}'])
  | (key, value) :: members => writeString key ++ ':' :: (value.write ++ ',' :: writeMembers members)

end

/-- The text of a value. -/
def Value.text (v : Value) : String :=
  String.ofList v.write

end ChatClient.Json
