import ChatClient.Text.Number

/-!
Punycode: any text in letters, digits and hyphens. The ASCII characters come first; the others
follow in the order of their code points, each as a distance in places and code points from the one
before, in digits of a base whose weights adapt to the distances seen.
-/
namespace ChatClient.Url.Punycode

def digitChar (d : Nat) : Char :=
  if d < 26 then Char.ofNat (97 + d) else Char.ofNat (48 + d - 26)

def digitValue? (c : Char) : Option Nat :=
  if 'a' ≤ c ∧ c ≤ 'z' then some (c.toNat - 97)
  else if 'A' ≤ c ∧ c ≤ 'Z' then some (c.toNat - 65)
  else if '0' ≤ c ∧ c ≤ '9' then some (c.toNat - 48 + 26)
  else none

/-- The least digit that does not end a number, at the place `k`. -/
def threshold (k bias : Nat) : Nat :=
  if k ≤ bias + 1 then 1 else if bias + 26 ≤ k then 26 else k - bias

/-- Divides a distance by 35 until it is at most 455, and counts 36 for each division. -/
def flatten : (fuel : Nat) → (delta k : Nat) → Nat × Nat
  | 0, delta, k => (delta, k)
  | fuel + 1, delta, k => if delta ≤ 455 then (delta, k) else flatten fuel (delta / 35) (k + 36)

/-- The bias after a distance, among `count` characters. -/
def adapt (delta count : Nat) (first : Bool) : Nat :=
  let delta := if first then delta / 700 else delta / 2
  let (delta, k) := flatten delta (delta + delta / count) 0
  k + 36 * delta / (delta + 38)

/-- The digits of a distance, from the place `k` on. -/
def writeDelta (bias : Nat) : (fuel : Nat) → (k delta : Nat) → List Char
  | 0, _, _ => []
  | fuel + 1, k, delta =>
    let t := threshold k bias
    if delta < t then [digitChar delta]
    else digitChar (t + (delta - t) % (36 - t)) ::
      writeDelta bias fuel (k + 36) ((delta - t) / (36 - t))

/-- What has been written, the distance since, the bias, and how many characters are written. -/
structure Progress where
  written : List Char
  delta : Nat
  bias : Nat
  count : Nat

/-- Writes the occurrences of the code point `n` and counts the smaller characters passed. -/
def Progress.pass (basic n : Nat) (p : Progress) (c : Char) : Progress :=
  if c.toNat < n then { p with delta := p.delta + 1 }
  else if c.toNat = n then
    ⟨p.written ++ writeDelta p.bias (p.delta + 1) 36 p.delta, 0,
      adapt p.delta (p.count + 1) (p.count = basic), p.count + 1⟩
  else p

/-- The code points from 0x80 on, in order, each once. -/
def foreignCodes (cs : List Char) : List Nat :=
  ((cs.map Char.toNat).filter (0x80 ≤ ·)).mergeSort.eraseDups

/-- Writes the code points in order; `n` is the first one that can come next. -/
def writeCodes (cs : List Char) (basic : Nat) : (n : Nat) → Progress → List Nat → List Char
  | _, p, [] => p.written
  | n, p, code :: codes =>
    let p := { p with delta := p.delta + (code - n) * (p.count + 1) }
    let p := cs.foldl (Progress.pass basic code) p
    writeCodes cs basic (code + 1) { p with delta := p.delta + 1 } codes

/-- A label in Punycode, without the mark in front. -/
def encode (cs : List Char) : List Char :=
  let basic := cs.filter (·.toNat < 0x80)
  let start := if basic.isEmpty then [] else basic ++ ['-']
  writeCodes cs basic.length 0x80 ⟨start, 0, 72, basic.length⟩ (foreignCodes cs)

/-- The characters so far, and a number of which some digits have been read. -/
structure Reading where
  out : List Nat
  code : Nat
  place : Nat
  bias : Nat
  start : Nat
  weight : Nat
  k : Nat
  unfinished : Bool

/-- Reads one digit. The last digit of a number puts a character at its place. -/
def Reading.digit? (r : Reading) (c : Char) : Option Reading := do
  let d ← digitValue? c
  let place := r.place + d * r.weight
  let t := threshold r.k r.bias
  let weight := r.weight * (36 - t)
  if Text.limit32 ≤ place then none
  else if t ≤ d then
    if Text.limit32 ≤ weight then none
    else some { r with place, weight, k := r.k + 36, unfinished := true }
  else
    let count := r.out.length + 1
    let code := r.code + place / count
    let place' := place % count
    if code.isValidChar then
      some ⟨r.out.take place' ++ code :: r.out.drop place', code, place' + 1,
        adapt (place - r.start) count (r.start = 0), place' + 1, 1, 36, false⟩
    else none

/-- The text of a label in Punycode, without the mark in front. A hyphen with nothing before it does not
end the ASCII characters. -/
def decode? (cs : List Char) : Option (List Char) := do
  let (basic, digits) := match cs.reverse.span (· ≠ '-') with
    | (digits, _ :: basic) => if basic.isEmpty then ([], cs) else (basic.reverse, digits.reverse)
    | (_, []) => ([], cs)
  if basic.any (0x80 ≤ ·.toNat) then none
  else
    let r ← digits.foldlM Reading.digit? ⟨basic.map Char.toNat, 0x80, 0, 72, 0, 1, 36, false⟩
    if r.unfinished then none else some (r.out.map Char.ofNat)

end ChatClient.Url.Punycode
