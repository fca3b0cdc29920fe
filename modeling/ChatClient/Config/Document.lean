import ChatClient.Yaml.Core
import ChatClient.Yaml.Document
import ChatClient.Text.Number

/-!
The configuration file: a YAML mapping with the origin of the backend and the place of the token. All
of it may be left out, or be null. Other keys are passed over. A key may come once.
-/
namespace ChatClient.Config

open Yaml (Document DocumentFault Item Path Mark)

/-- The section about the backend, as written. -/
structure Section where
  protocol : Option String
  hostname : Option String
  port : Option Nat
deriving DecidableEq

/-- The file as written. -/
structure Raw where
  api : Option Section
  tokenFile : Option String
deriving DecidableEq

def Section.empty : Section := ⟨none, none, none⟩

def Raw.empty : Raw := ⟨none, none⟩

/-- Reads a value at a position, and gives the position after it. -/
abbrev Reader (α : Type) := Document → Path → Nat → Except DocumentFault (α × Nat)

/-- The position of the value that stands at a position: behind an alias, that of its node. -/
def target (d : Document) (position : Nat) : Except DocumentFault Nat := do
  match ← d.item position with
  | (.alias number, _) => .ok (d.node number)
  | _ => .ok position

/-- A reader that also follows an alias, and goes on behind it. -/
def follow (read : Reader α) : Reader α := fun d path position => do
  let there ← target d position
  let (value, next) ← read d path there
  .ok (value, if there = position then next else position + 1)

/-- What is said of an item where something else is expected. -/
def mismatch (expected : String) (item : Item × Mark) (path : Path) : DocumentFault :=
  let located (message : String) := DocumentFault.value message (some (path, item.2))
  match item.1 with
  | .scalar tag text style => located (Yaml.scalarMessage tag text style expected)
  | .sequenceStart => located (Yaml.mistyped "sequence" expected)
  | .mappingStart => located (Yaml.mistyped "map" expected)
  | _ => .ended

/-- Any scalar as text. -/
def readText (expected : String) : Reader String := follow fun d path position => do
  match ← d.item position with
  | (.scalar _ text _, _) => .ok (text, position + 1)
  | item => .error (mismatch expected item path)

/-- A plain scalar, or a literal block with the tag for it, may be a number. -/
def mayBeNumber (tag : Option String) (style : Yaml.Style) : Bool :=
  style = .plain || (style = .literal && tag = some "tag:yaml.org,2002:int")

def readPort : Reader Nat := follow fun d path position => do
  let item ← d.item position
  let failed : Except DocumentFault (Nat × Nat) := .error (mismatch "u16" item path)
  match item with
  | (.scalar tag text style, mark) =>
    match if mayBeNumber tag style then Yaml.natural? text else none with
    | some n =>
      if n < Text.limit16 then .ok (n, position + 1)
      else if n < Text.limit64 then
        let number := "integer \x60" ++ toString n ++ "\x60"
        .error (.value (Yaml.misvalued number "u16") (some (path, mark)))
      else failed
    | none => failed
  | _ => failed

/-- Whether a scalar stands for nothing. One with the tag of null has to. -/
def isAbsent (tag : Option String) (text : String) (style : Yaml.Style) : Except DocumentFault Bool :=
  if style ≠ .plain then .ok false
  else match tag with
    | none => .ok (text = "" || Yaml.isNull text)
    | some tag =>
      if tag = "tag:yaml.org,2002:null" then
        if Yaml.isNull text then .ok true
        else .error (.value (Yaml.misvalued ("string " ++ Text.quoted text) "null") none)
      else .ok false

/-- A value that may be null. -/
def readOptional (read : Reader α) : Reader (Option α) := follow fun d path position => do
  let some_ : Except DocumentFault (Option α × Nat) := do
    let (value, next) ← read d path position
    .ok (some value, next)
  match ← d.item position with
  | (.scalar tag text style, _) => if ← isAbsent tag text style then .ok (none, position + 1) else some_
  | (.nothing, _) => .ok (none, position + 1)
  | _ => some_

/-- The text of a key, if it stands there itself. -/
def keyText : Item → Option String
  | .scalar _ text _ => some text
  | _ => none

/-- Reads the members of a mapping into a record. The function says how a member with a key goes into
it; without a way the member is passed over. The fuel bounds the number of members. -/
def readMembers (member : σ → String → Option (Except DocumentFault (Reader σ))) :
    (fuel : Nat) → σ → Reader σ
  | 0, _, _, _, _ => .error .ended
  | fuel + 1, s, d, path, position => do
    let (item, _) ← d.item position
    match item with
    | .mappingEnd => .ok (s, position + 1)
    | _ =>
      let (key, next) ← readText "field identifier" d path position
      match member s key with
      | none => readMembers member fuel s d path (← d.skip next)
      | some read =>
        let (s, next) ← (← read) d (keyText item :: path) next
        readMembers member fuel s d path next

/-- Reads a record. Nothing at all is a record without members. A fault that has no place yet is one
of the whole record. -/
def readRecord (name : String) (empty : σ)
    (member : σ → String → Option (Except DocumentFault (Reader σ))) : Reader σ :=
  follow fun d path position => do
    let item ← d.item position
    let failed : Except DocumentFault (σ × Nat) := .error (mismatch ("struct " ++ name) item path)
    match item with
    | (.mappingStart, mark) =>
      (readMembers member (d.items.size + 1) empty d path (position + 1)).mapError (·.located path mark)
    | (.scalar _ text style, _) => if text = "" ∧ style = .plain then .ok (empty, position + 1) else failed
    | (.nothing, _) => .ok (empty, position + 1)
    | _ => failed

/-- A member that has not come before. -/
def once (key : String) (before : Option α) (read : Reader β) : Except DocumentFault (Reader β) :=
  if before.isSome then .error (.value ("duplicate field \x60" ++ key ++ "\x60") none) else .ok read

/-- Puts what a reader reads into a record. -/
def into (read : Reader α) (put : α → σ) : Reader σ := fun d path position => do
  let (value, next) ← read d path position
  .ok (put value, next)

/-- The section while it is being read; none where a member has not come yet. -/
structure SectionDraft where
  protocol : Option (Option String)
  hostname : Option (Option String)
  port : Option (Option Nat)

def SectionDraft.member (s : SectionDraft) (key : String) :
    Option (Except DocumentFault (Reader SectionDraft)) :=
  let text := readOptional (readText "a string")
  match key with
  | "protocol" => some (once key s.protocol (into text fun v => { s with protocol := some v }))
  | "hostname" => some (once key s.hostname (into text fun v => { s with hostname := some v }))
  | "port" => some (once key s.port (into (readOptional readPort) fun v => { s with port := some v }))
  | _ => none

def readSection : Reader Section :=
  into (readRecord "ApiSection" ⟨none, none, none⟩ SectionDraft.member) fun s =>
    ⟨s.protocol.join, s.hostname.join, s.port.join⟩

/-- The file while it is being read; none where a member has not come yet. -/
structure RawDraft where
  api : Option (Option Section)
  tokenFile : Option (Option String)

def RawDraft.member (s : RawDraft) (key : String) : Option (Except DocumentFault (Reader RawDraft)) :=
  match key with
  | "api" => some (once key s.api (into (readOptional readSection) fun v => { s with api := some v }))
  | "token_file" =>
    some (once key s.tokenFile
      (into (readOptional (readText "path string")) fun v => { s with tokenFile := some v }))
  | _ => none

/-- Reads a configuration file. What it says is looked at before what may be wrong behind it. -/
def Raw.parse (text : String) : Except DocumentFault Raw := do
  let d := Document.ofString text
  let (draft, _) ← readRecord "RawConfig" ⟨none, none⟩ RawDraft.member d [] 0
  match d.fault with
  | some fault => .error fault
  | none => .ok ⟨draft.api.join, draft.tokenFile.join⟩

end ChatClient.Config
