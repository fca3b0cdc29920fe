import ChatClient.Text.Blank
import ChatClient.Text.Number

/-!
Headers as they go over the wire, in both directions: what their names and values are made of, and what
they say about the body that follows them.
-/
namespace ChatClient.Http

/-- Header names are made of letters, digits and some signs. -/
def isNameChar (c : Char) : Bool :=
  c.isAlphanum ||
    ['!', '#', '$', '%', '&', '\x27', '*', '+', '-', '.', '^', '_', '\x60', '|', '~'].contains c

/-- Header values hold no control characters but the tab. -/
def isValueChar (c : Char) : Bool :=
  (0x20 ≤ c.toNat && c.toNat ≠ 0x7F) || c = '\t'

/-- The values of the headers with a name. -/
def valuesOf (name : String) (headers : List (String × α)) : List α :=
  (headers.filter (·.1 = name)).map (·.2)

/-- Without the headers with some names. -/
def withoutNames (names : List String) (headers : List (String × α)) : List (String × α) :=
  headers.filter fun h => !names.contains h.1

/-- With one header in place of all that have its name. -/
def withHeader (name : String) (value : α) (headers : List (String × α)) : List (String × α) :=
  withoutNames [name] headers ++ [(name, value)]

/-- Says how many bytes the body has. -/
def lengthName : String := "content-length"

/-- Says in which form the body is sent. -/
def encodingName : String := "transfer-encoding"

/-- Says what the body is. -/
def contentTypeName : String := "content-type"

/-- The numbers in a header, with commas between them. -/
def lengths? (value : List Char) : Option (List Nat) :=
  if value.all fun c => c.toNat < 0x80 then
    (Text.cutAll ',' value).mapM fun part =>
      (Text.digits? 10 (Text.trimChars part)).filter (· < Text.limit64)
  else none

/-- The length of the body, if all headers about it agree. -/
def bodyLength? (values : List (List Char)) : Option Nat := do
  match ← values.mapM lengths? with
  | (n :: ns) :: rest => if (ns ++ rest.flatten).all (· = n) then some n else none
  | _ => none

/-- The form in which a body is sent chunk by chunk. -/
def chunkedForm : String := "chunked"

/-- Whether the last one of some forms is chunks. -/
def endsChunked (value : List Char) : Bool :=
  value.all (fun c => c.toNat < 0x80) &&
    match (Text.cutAll ',' value).getLast? with
    | some form => Text.sameName (String.ofList (Text.trimChars form)) chunkedForm
    | none => false

end ChatClient.Http
