import ChatClient.Url.Error
import ChatClient.Url.Domain.Direction
import ChatClient.Url.Domain.Joining
import ChatClient.Url.Domain.Mapping
import ChatClient.Url.Percent
import ChatClient.Url.Punycode
import ChatClient.Text.NormalForm

/-!
Host names. A name may be written with percent signs and in any script; it is brought to one form, in
ASCII and small letters, in which a label that is not ASCII stands in Punycode after the mark `xn--`.
-/
namespace ChatClient.Url.Domain

/-- A name holds no control character, and none that has a meaning elsewhere in an address. -/
def isForbidden (c : Char) : Bool :=
  controlSet c ||
    [' ', '#', '%', '/', ':', '<', '>', '?', '@', '[', '\\', ']', '^', '|'].contains c

/-- What a label that is not ASCII begins with. -/
def mark : List Char := ['x', 'n', '-', '-']

def isAscii (cs : List Char) : Bool := cs.all (·.toNat < 0x80)

/-- The one way to write a text in a name: small letters, plain forms, put together. -/
def mapped? (cs : List Char) : Option (List Char) := do
  let parts ← ((cs.flatMap Text.parts).map Char.ofNat).mapM mapChar
  some (Text.normalForm parts.flatten)

/-- A label as it is read, and as it is sent. -/
structure Label where
  text : List Char
  ascii : List Char

/-- Labels longer than this are not encoded. -/
def encodeLimit : Nat := 1000

/-- Longer ones than this are not decoded. -/
def decodeLimit : Nat := 2000

/-- A label in Punycode stands for a text that is not ASCII and that mapping leaves as it is. -/
def markedLabel? (encoded : List Char) : Option Label := do
  if decodeLimit < encoded.length then none
  else
    let text ← Punycode.decode? encoded
    if isAscii text || mapped? text ≠ some text then none else some ⟨text, mark ++ encoded⟩

/-- A mapped label. -/
def label? (cs : List Char) : Option Label :=
  if mark.isPrefixOf cs then markedLabel? (cs.drop 4)
  else if isAscii cs then some ⟨cs, cs⟩
  else if encodeLimit < cs.length then none
  else some ⟨cs, mark ++ Punycode.encode cs⟩

/-- A label does not start with a mark, and what joins or parts letters has letters to join or part. -/
def Label.isSound (l : Label) : Bool :=
  !l.text.head?.any Text.isMark && joinsIn [] l.text

/-- The one form of the labels of a mapped name. -/
def foreign? (cs : List Char) : Option (List Char) := do
  let labels ← (Text.cutAll '.' cs).mapM label?
  if labels.all Label.isSound && keepDirections (labels.map Label.text) then
    some (['.'].intercalate (labels.map Label.ascii))
  else none

/-- Whether a name says the same in all scripts: it is ASCII, and no label stands for another text. -/
def isPlain (cs : List Char) : Bool :=
  isAscii cs && (Text.cutAll '.' cs).all fun label => !mark.isPrefixOf label

/-- The one form of a name. -/
def ascii? (s : String) : Option String := do
  let lower := s.toList.map Char.toLower
  let name ← if isPlain lower then some lower else (mapped? s.toList).bind foreign?
  if name.any isForbidden then none else some (String.ofList name)

/-- The name that a host stands for. -/
def parse (host : List Char) : Except Fault String :=
  let bytes := unescapeBytes (Text.encodeUtf8 (String.ofList host))
  match (Text.decodeUtf8? bytes).bind ascii? with
  | some name => if name.isEmpty then .error .emptyHost else .ok name
  | none => .error .badDomain

end ChatClient.Url.Domain
