import ChatClient.Url.Error
import ChatClient.Text.Blank
import ChatClient.Text.Number

/-!
IPv4 addresses as hosts: up to four numbers, in base ten, eight (with a leading zero) or sixteen (with
a leading 0x). The last number fills all the bytes that the others leave.
-/
namespace ChatClient.Url.Ipv4

open Text (digit? hexDigit? cutAll)

/-- One number, which may be too large for an address. -/
def part? (cs : List Char) : Option Nat :=
  let (base, digits) : Nat × List Char := match cs with
    | '0' :: 'x' :: rest | '0' :: 'X' :: rest => (16, rest)
    | '0' :: d :: rest => (8, d :: rest)
    | cs => (10, cs)
  if cs.isEmpty then none
  else if digits.isEmpty then some 0
  else Text.digits? base digits

/-- A host is an address, and not a name, if its last part is a number. A point at the end does not
count as a part. -/
def endsInNumber (domain : List Char) : Bool :=
  let last := match (cutAll '.' domain).reverse with
    | [] :: before :: _ => before
    | part :: _ => part
    | [] => []
  (!last.isEmpty && last.all (digit? · |>.isSome)) || (part? last).isSome

/-- The value of the numbers but the last, one byte each, from the byte `weight` on. -/
def leading (weight : Nat) : List Nat → Nat
  | [] => 0
  | n :: ns => n * weight + leading (weight / 256) ns

/-- The address of a host that ends in a number. -/
def parse (domain : List Char) : Except Fault Nat :=
  let parts := cutAll '.' domain
  let parts := if parts.getLast? = some [] then parts.dropLast else parts
  match parts.mapM part? with
  | none => .error .badIpv4
  | some numbers =>
    match numbers.reverse with
    | [] => .error .badIpv4
    | last :: firsts =>
      let firsts := firsts.reverse
      if 3 < firsts.length ∨ firsts.any (255 < ·) ∨ Nat.pow 256 (4 - firsts.length) ≤ last then
        .error .badIpv4
      else .ok (leading (Nat.pow 256 3) firsts + last)

/-- Four numbers with points between them. -/
def text (address : Nat) : String :=
  String.intercalate "." ([16777216, 65536, 256, 1].map fun w => toString (address / w % 256))

end ChatClient.Url.Ipv4
