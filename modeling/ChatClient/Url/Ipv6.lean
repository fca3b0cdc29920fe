import ChatClient.Url.Error
import ChatClient.Text.Blank
import ChatClient.Text.Number

/-!
IPv6 addresses as hosts: eight groups of up to four hexadecimal digits. Two colons stand for a run of
zero groups, once; an IPv4 address may stand for the last two groups. An address is written with the
first of its longest runs of zero groups left out, if it is longer than one group.
-/
namespace ChatClient.Url.Ipv6

open Text (digit? cutAll)

/-- A group of one to four digits. -/
def group? (cs : List Char) : Option Nat :=
  if cs.length ≤ 4 then Text.digits? 16 cs else none

/-- A byte in base ten, without a leading zero. -/
def byte? (cs : List Char) : Option Nat :=
  match cs with
  | '0' :: _ :: _ => none
  | cs => do
    if cs.all (digit? · |>.isSome) then
      let n ← Text.digits? 10 cs
      if n ≤ 255 then some n else none
    else none

/-- The two groups of an IPv4 address with four parts. -/
def dotted? (cs : List Char) : Option (List Nat) :=
  match (cutAll '.' cs).mapM byte? with
  | some [a, b, c, d] => some [a * 256 + b, c * 256 + d]
  | _ => none

/-- The groups of parts between single colons. Only the last part may be an IPv4 address. -/
def groups? (mayEndDotted : Bool) : List (List Char) → Option (List Nat)
  | [] => some []
  | [last] =>
    match group? last with
    | some n => some [n]
    | none => if mayEndDotted then dotted? last else none
  | part :: parts => do
    let n ← group? part
    some (n :: (← groups? mayEndDotted parts))

/-- The parts before and after the first two colons in a row. -/
def cutAtGap : List Char → Option (List Char × List Char)
  | ':' :: ':' :: rest => some ([], rest)
  | c :: rest => (cutAtGap rest).map fun (before, after) => (c :: before, after)
  | [] => none

/-- The groups of a text, which is empty on a side where nothing stands. -/
def side? (mayEndDotted : Bool) (cs : List Char) : Option (List Nat) :=
  if cs.isEmpty then some [] else groups? mayEndDotted (cutAll ':' cs)

/-- The eight groups of an address. -/
def parse (cs : List Char) : Except Fault (List Nat) :=
  let groups : Option (List Nat) := match cutAtGap cs with
    | none => groups? true (cutAll ':' cs)
    | some (before, after) => do
      let front ← side? false before
      let back ← side? true after
      if front.length + back.length < 8 then
        some (front ++ List.replicate (8 - front.length - back.length) 0 ++ back)
      else none
  match groups with
  | some groups => if groups.length = 8 then .ok groups else .error .badIpv6
  | none => .error .badIpv6

/-- How many zero groups stand at the front. -/
def zeros (groups : List Nat) : Nat := (groups.takeWhile (· = 0)).length

/-- Where the first of the longest runs of zero groups begins, and how long it is. -/
def longestRun (groups : List Nat) : Nat × Nat :=
  (List.range groups.length).foldl (fun (start, length) i =>
    let here := zeros (groups.drop i)
    if length < here then (i, here) else (start, length)) (0, 0)

def groupsText (groups : List Nat) : String :=
  String.intercalate ":" (groups.map fun n => String.ofList (Nat.toDigits 16 n))

def text (groups : List Nat) : String :=
  let (start, length) := longestRun groups
  if length < 2 then groupsText groups
  else groupsText (groups.take start) ++ "::" ++ groupsText (groups.drop (start + length))

end ChatClient.Url.Ipv6
