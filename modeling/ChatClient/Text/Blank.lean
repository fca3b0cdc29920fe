/-!
White space is the property White_Space of Unicode: twenty-five characters. Trimming, telling blank
text from text, and splitting into words all go by it.
-/
namespace ChatClient.Text

/-- The characters of White_Space, as ranges of code points. -/
def blankRanges : List (Nat × Nat) :=
  [(0x09, 0x0D), (0x20, 0x20), (0x85, 0x85), (0xA0, 0xA0), (0x1680, 0x1680), (0x2000, 0x200A),
   (0x2028, 0x2029), (0x202F, 0x202F), (0x205F, 0x205F), (0x3000, 0x3000)]

def isBlankChar (c : Char) : Bool :=
  blankRanges.any fun (low, high) => low ≤ c.toNat && c.toNat ≤ high

/-- Leaves out the longest end on which `p` holds. -/
def dropEnd (p : Char → Bool) (cs : List Char) : List Char :=
  (cs.reverse.dropWhile p).reverse

def trimChars (cs : List Char) : List Char :=
  dropEnd isBlankChar (cs.dropWhile isBlankChar)

/-- The text without the white space at its two ends. -/
def trim (s : String) : String :=
  String.ofList (trimChars s.toList)

/-- A blank text is empty or has nothing but white space. -/
def isBlank (s : String) : Bool :=
  s.toList.all isBlankChar

/-- Adds a word that has just ended; white space on white space ends none. -/
private def closeWord (word : List Char) (words : List String) : List String :=
  if word.isEmpty then words else String.ofList word :: words

/-- The words of `cs`, where `word` holds the letters of the word being read, last first. -/
private def wordsFrom (word : List Char) : List Char → List String
  | [] => closeWord word.reverse []
  | c :: cs =>
    if isBlankChar c then closeWord word.reverse (wordsFrom [] cs) else wordsFrom (c :: word) cs

/-- The longest parts without white space, in order. -/
def words (s : String) : List String :=
  wordsFrom [] s.toList

private theorem closeWord_append (word : List Char) (words words' : List String) :
    closeWord word (words ++ words') = closeWord word words ++ words' := by
  unfold closeWord
  split <;> rfl

private theorem wordsFrom_append (hb : isBlankChar b = true) (word cs rest : List Char) :
    wordsFrom word (cs ++ b :: rest) = wordsFrom word cs ++ wordsFrom [] rest := by
  induction cs generalizing word with
  | nil => simp [wordsFrom, hb, ← closeWord_append]
  | cons c cs ih =>
    rw [List.cons_append, wordsFrom, wordsFrom]
    split
    · rw [ih, closeWord_append]
    · exact ih (c :: word)

/-- No word goes on behind white space. -/
theorem words_append_blank (hb : isBlankChar b = true) (cs rest : List Char) :
    words (String.ofList (cs ++ b :: rest)) = words (String.ofList cs) ++ words (String.ofList rest) := by
  simp [words, wordsFrom_append hb]

private theorem wordsFrom_noBlank {word cs : List Char} (hne : word ≠ [] ∨ cs ≠ [])
    (hc : ∀ c ∈ cs, isBlankChar c = false) : wordsFrom word cs = [String.ofList (word.reverse ++ cs)] := by
  induction cs generalizing word with
  | nil =>
    have hword : word ≠ [] := hne.resolve_right fun h => h rfl
    simp [wordsFrom, closeWord, hword]
  | cons c cs ih =>
    obtain ⟨hfirst, hrest⟩ := List.forall_mem_cons.mp hc
    rw [wordsFrom, hfirst, if_neg Bool.false_ne_true, ih (.inl (List.cons_ne_nil c word)) hrest]
    simp

/-- A text without white space is one word. -/
theorem words_noBlank {cs : List Char} (hne : cs ≠ []) (hc : ∀ c ∈ cs, isBlankChar c = false) :
    words (String.ofList cs) = [String.ofList cs] := by
  rw [words, String.toList_ofList, wordsFrom_noBlank (.inr hne) hc]
  rfl

/-- What follows `lead` in `s`, if `s` starts with it. -/
def afterLead? (lead s : String) : Option String :=
  if lead.toList.isPrefixOf s.toList then some (String.ofList (s.toList.drop lead.toList.length))
  else none

/-- Equality of names that does not tell an ASCII capital from its small letter. -/
def sameName (a b : String) : Bool :=
  a.toList.map Char.toLower == b.toList.map Char.toLower

/-- Small letters for the ASCII capitals; any other character stays. -/
def lowerAscii (s : String) : String :=
  String.ofList (s.toList.map Char.toLower)

/-- Spaces on the right up to `width` characters. -/
def padRight (width : Nat) (s : String) : String :=
  s ++ String.ofList (List.replicate (width - s.toList.length) ' ')

/-- The character `fill` on the left up to `width` characters. -/
def padLeft (width : Nat) (fill : Char) (s : String) : String :=
  String.ofList (List.replicate (width - s.toList.length) fill) ++ s

/-- The part before the first `c`, and the part after it if there is one. -/
def cutAt (c : Char) (s : String) : String × Option String :=
  let (before, rest) := s.toList.span (· != c)
  (String.ofList before, rest.tail?.map String.ofList)

/-- Cuts at every `c`; the parts joined by `c` are the whole again. -/
def cutAll [DecidableEq α] (c : α) : List α → List (List α)
  | [] => [[]]
  | d :: ds =>
    if d = c then [] :: cutAll c ds
    else match cutAll c ds with
      | [] => [[d]]
      | part :: parts => (d :: part) :: parts

end ChatClient.Text
