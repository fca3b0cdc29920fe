import ChatClient.Time.Instant
import ChatClient.Text.Blank
import ChatClient.Text.Number

/-!
Instants in text. Writing follows RFC 3339: a fraction has three, six or nine digits, or is left out
if it is zero, and a year outside 0 to 9999 has a sign. There are two readers. The strict one takes
the standard form only. The loose one also takes spaces between the parts, fields of one digit, years
with a sign, and offsets with or without a colon; what it reads is turned into universal time.
-/
namespace ChatClient.Time

open Text (digit? isBlankChar)

/-- Two digits with a zero in front if needed. -/
def twoDigits (n : Nat) : String := Text.padLeft 2 '0' (toString n)

/-- Four digits for the years 0 to 9999; other years have a sign and at least four digits. -/
def yearText (year : Int) : String :=
  let digits := Text.padLeft 4 '0' (toString year.natAbs)
  if 0 ≤ year ∧ year ≤ 9999 then digits else (if year < 0 then "-" else "+") ++ digits

def dateText (d : Date) : String :=
  yearText d.year ++ "-" ++ twoDigits d.month ++ "-" ++ twoDigits d.day

/-- The nanoseconds of a second as a fraction. -/
def fractionText (nanos : Nat) : String :=
  if nanos = 0 then ""
  else if nanos % 1000000 = 0 then "." ++ Text.padLeft 3 '0' (toString (nanos / 1000000))
  else if nanos % 1000 = 0 then "." ++ Text.padLeft 6 '0' (toString (nanos / 1000))
  else "." ++ Text.padLeft 9 '0' (toString nanos)

/-- The time of day; a leap second is the sixtieth. -/
def clockText (i : Instant) : String :=
  let s := i.secondOfDay
  let leap := if billion ≤ i.nanos then 1 else 0
  twoDigits (s / 3600) ++ ":" ++ twoDigits (s / 60 % 60) ++ ":" ++ twoDigits (s % 60 + leap) ++
    fractionText (i.nanos - leap * billion)

/-- The text of an instant, with a sign of universal time at its end. -/
def Instant.textWith (zone : String) (i : Instant) : String :=
  dateText (.ofDays i.day) ++ "T" ++ clockText i ++ zone

/-- The text of an instant in messages of the backend. -/
def Instant.text (i : Instant) : String := i.textWith "Z"

/-- Date, hour and minute, as lists show them. -/
def Instant.minuteText (i : Instant) : String :=
  dateText (.ofDays i.day) ++ " " ++ twoDigits (i.secondOfDay / 3600) ++ ":" ++
    twoDigits (i.secondOfDay / 60 % 60)

/-- At most `most` digits at the front. -/
def takeDigitsUpTo : (most : Nat) → List Char → List Nat × List Char
  | most + 1, c :: cs =>
    match digit? c with
    | some d => (d :: (takeDigitsUpTo most cs).1, (takeDigitsUpTo most cs).2)
    | none => ([], c :: cs)
  | _, cs => ([], cs)

def decimalValue (digits : List Nat) : Nat :=
  digits.foldl (fun n d => n * 10 + d) 0

/-- A number of at least `least` and at most `most` digits. -/
def readNumber (least most : Nat) (cs : List Char) : Option (Nat × List Char) :=
  let (digits, rest) := takeDigitsUpTo most cs
  if digits.length < least then none else some (decimalValue digits, rest)

def readChar (c : Char) : List Char → Option (List Char)
  | d :: cs => if d = c then some cs else none
  | [] => none

def skipBlanks (cs : List Char) : List Char := cs.dropWhile isBlankChar

/-- The nanoseconds after a point, or zero if there is none. Digits after the ninth do not count. -/
def readFraction : List Char → Option (Nat × List Char)
  | '.' :: cs =>
    let (digits, rest) := takeDigitsUpTo 9 cs
    if digits.isEmpty then none
    else some (decimalValue digits * Nat.pow 10 (9 - digits.length), rest.dropWhile (digit? · |>.isSome))
  | cs => some (0, cs)

/-- Seconds east of Greenwich: the letter Z, or a sign, two digits for hours, what `separator` takes
off, and two digits for minutes. The sign may be the mathematical minus. -/
def readOffset (separator : List Char → Option (List Char)) : List Char → Option (Int × List Char)
  | [] => none
  | c :: cs =>
    if c = 'Z' ∨ c = 'z' then some (0, cs)
    else if c = '+' ∨ c = '-' ∨ c = '\u2212' then do
      let (hours, cs) ← readNumber 2 2 cs
      let (minutes, cs) ← readNumber 2 2 (← separator cs)
      if 59 < minutes then none
      else
        let seconds : Int := hours * 3600 + minutes * 60
        some (if c = '+' then seconds else -seconds, cs)
    else none

/-- The fields of an instant as read, in the time of an offset. -/
structure Fields where
  date : Date
  hour : Nat
  minute : Nat
  second : Nat
  nanos : Nat
  offset : Int

/-- The instant of the fields, if all are in their ranges and the year of the instant can be written.
The sixtieth second is a leap second. -/
def Fields.instant? (f : Fields) : Option Instant :=
  if f.date.isValid ∧ f.hour < 24 ∧ f.minute < 60 ∧ f.second ≤ 60 ∧ f.offset.natAbs < 86400 then
    let second := if f.second = 60 then 59 else f.second
    let nanos := if f.second = 60 then f.nanos + billion else f.nanos
    let seconds := f.date.toDays * 86400 + (f.hour * 3600 + f.minute * 60 + second) - f.offset
    (Instant.ofSeconds? seconds).map fun i => { i with nanos }
  else none

/-- The letter between date and time, or a space. -/
def readTimeMark : List Char → Option (List Char)
  | c :: cs => if c = 'T' ∨ c = 't' ∨ c = ' ' then some cs else none
  | [] => none

/-- Reads the standard form. -/
def Instant.readStrict? (s : String) : Option Instant := do
  let (year, cs) ← readNumber 4 4 s.toList
  let (month, cs) ← readNumber 2 2 (← readChar '-' cs)
  let (day, cs) ← readNumber 2 2 (← readChar '-' cs)
  let (hour, cs) ← readNumber 2 2 (← readTimeMark cs)
  let (minute, cs) ← readNumber 2 2 (← readChar ':' cs)
  let (second, cs) ← readNumber 2 2 (← readChar ':' cs)
  let (nanos, cs) ← readFraction cs
  let (offset, cs) ← readOffset (readChar ':') cs
  if cs.isEmpty then Fields.instant? ⟨⟨year, month, day⟩, hour, minute, second, nanos, offset⟩
  else none

/-- A year: any number of digits after a sign, up to four without one. -/
def readYear (cs : List Char) : Option (Int × List Char) :=
  match skipBlanks cs with
  | '-' :: cs => (readNumber 1 cs.length cs).map fun (n, cs) => (-n, cs)
  | '+' :: cs => (readNumber 1 cs.length cs).map fun (n, cs) => (n, cs)
  | cs => (readNumber 1 4 cs).map fun (n, cs) => (n, cs)

/-- A field of one or two digits, with blanks before it. -/
def readField (cs : List Char) : Option (Nat × List Char) :=
  readNumber 1 2 (skipBlanks cs)

/-- The offset in the loose form: also the letters UTC, and any colons and blanks between hours and
minutes. -/
def readLooseOffset (cs : List Char) : Option (Int × List Char) :=
  if (cs.take 3).map Char.toUpper = ['U', 'T', 'C'] then some (0, cs.drop 3)
  else readOffset (fun cs => some (cs.dropWhile fun c => c = ':' || isBlankChar c)) cs

/-- Reads the loose form. -/
def Instant.readLoose? (s : String) : Option Instant := do
  let (year, cs) ← readYear s.toList
  let (month, cs) ← readField (← readChar '-' (skipBlanks cs))
  let (day, cs) ← readField (← readChar '-' (skipBlanks cs))
  let (hour, cs) ← readField (← readTimeMark cs)
  let (minute, cs) ← readField (← readChar ':' (skipBlanks cs))
  let (second, cs) ← readField (← readChar ':' (skipBlanks cs))
  let (nanos, cs) ← readFraction cs
  let (offset, cs) ← readLooseOffset (skipBlanks cs)
  if (skipBlanks cs).isEmpty then
    Fields.instant? ⟨⟨year, month, day⟩, hour, minute, second, nanos, offset⟩
  else none

end ChatClient.Time
