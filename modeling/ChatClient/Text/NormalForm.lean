import ChatClient.Text.Decomposition
import ChatClient.Text.Mark

/-!
The normal form of text: of all ways to write the same characters, the one in which characters are put
together where they can be. Text is taken apart, its marks are put in order, and it is put together again.
-/
namespace ChatClient.Text

/-! ### Korean syllables

They are laid out in the order of their first consonant, their vowel and their last consonant, of which
there are nineteen, twenty-one and twenty-eight with none counted in. -/

def syllables : Nat := 0xAC00

def firstConsonants : Nat := 0x1100

def vowels : Nat := 0x1161

/-- Where the last consonants would start if there was one for none. -/
def lastConsonants : Nat := 0x11A7

/-- The letters of a syllable. -/
def letters? (code : Nat) : Option (List Nat) :=
  let place := code - syllables
  let last := place % 28
  if syllables ≤ code ∧ place < 19 * 21 * 28 then
    some ([firstConsonants + place / (21 * 28), vowels + place / 28 % 21] ++
      if last = 0 then [] else [lastConsonants + last])
  else none

/-- The syllable of a consonant and a vowel, or of a syllable without a last consonant and one. -/
def syllable? (a b : Nat) : Option Nat :=
  if firstConsonants ≤ a ∧ a < firstConsonants + 19 ∧ vowels ≤ b ∧ b < vowels + 21 then
    some (syllables + ((a - firstConsonants) * 21 + (b - vowels)) * 28)
  else if syllables ≤ a ∧ a < syllables + 19 * 21 * 28 ∧ (a - syllables) % 28 = 0 ∧
      lastConsonants < b ∧ b < lastConsonants + 28 then
    some (a + (b - lastConsonants))
  else none

/-! ### Taking apart -/

/-- The characters that a code point stands for. What is made up of others is so at most three times. -/
def takeApart : (depth : Nat) → (code : Nat) → List Nat
  | 0, code => [code]
  | depth + 1, code =>
    match letters? code <|> decompositions.codes? code with
    | some codes => codes
    | none =>
      match composites.codes? code with
      | some (first :: rest) => takeApart depth first ++ rest
      | _ => [code]

/-- ASCII stands for itself. -/
def parts (c : Char) : List Nat :=
  if c.toNat < 0x80 then [c.toNat] else takeApart 4 c.toNat

/-- Puts a mark behind those that follow it and have a lower class. -/
def placeMark (code : Nat) : List Nat → List Nat
  | [] => [code]
  | next :: rest =>
    if combiningClass next ≠ 0 ∧ combiningClass next < combiningClass code then
      next :: placeMark code rest
    else code :: next :: rest

/-- The text taken apart, with its marks in the order of their classes. -/
def decomposed (cs : List Char) : List Nat :=
  (cs.flatMap parts).foldr placeMark []

/-! ### Putting together -/

/-- The character that two make up. -/
def composite? (a b : Nat) : Option Nat := syllable? a b <|> composites.code? [a, b]

/-- What has been put together: the last character without a class, the marks after it that it did not
take up, and all before it, last first. -/
structure Composition where
  before : List Nat
  base : Option Nat
  marks : List Nat

/-- All characters, last first. -/
def Composition.codes (s : Composition) : List Nat := s.marks ++ s.base.toList ++ s.before

/-- Adds a character. The base takes it up unless a mark of the same class or a higher one is between. -/
def Composition.add (s : Composition) (code : Nat) : Composition :=
  let free := s.marks.all fun m => combiningClass m < combiningClass code
  match s.base.bind fun base => if free then composite? base code else none with
  | some base => { s with base := some base }
  | none =>
    if combiningClass code = 0 then ⟨s.codes, some code, []⟩
    else { s with marks := code :: s.marks }

/-- The normal form of a text. -/
def normalForm (cs : List Char) : List Char :=
  (((decomposed cs).foldl Composition.add ⟨[], none, []⟩).codes.reverse).map Char.ofNat

end ChatClient.Text
