import ChatClient.Json.Reader
import ChatClient.Json.Writer
import ChatClient.Time.Rfc3339

/-!
A prompt with its answer, and its form in JSON. The backend's list of past entries may use an older
name for the answer, and leave it out; an entry by itself may not.
-/
namespace ChatClient

open Text (Piece)
open Json (RecordReader)

/-- The answer is empty as long as there is none. -/
structure Entry where
  prompt : String
  answer : String
  createdAt : Time.Instant
deriving DecidableEq

namespace Entry

/-- The entry of a prompt that has just been asked. -/
def asked (prompt : String) (now : Time.Instant) : Entry := ⟨prompt, "", now⟩

def isPending (e : Entry) : Bool := e.answer = ""

/-- The JSON text of an entry, the members in the order of the fields. -/
def write (e : Entry) : List Char :=
  "\x7b\"prompt\":".toList ++ Json.writeString e.prompt ++ ",\"answer\":".toList ++
    Json.writeString e.answer ++ ",\"createdAt\":".toList ++ Json.writeString e.createdAt.text ++ ['\x7d']

end Entry

/-- An entry while it is being read; none where a member has not come yet. -/
structure EntryDraft where
  prompt : Option String
  answer : Option String
  createdAt : Option Time.Instant

namespace EntryDraft

def readPrompt (d : EntryDraft) (input : List Piece) : Option (EntryDraft × List Piece) := do
  let (s, rest) ← Json.readString input
  some ({ d with prompt := some s }, rest)

def readAnswer (d : EntryDraft) (input : List Piece) : Option (EntryDraft × List Piece) := do
  let (s, rest) ← Json.readString input
  some ({ d with answer := some s }, rest)

def readCreatedAt (d : EntryDraft) (input : List Piece) : Option (EntryDraft × List Piece) := do
  let (s, rest) ← Json.readString input
  some ({ d with createdAt := some (← Time.Instant.readLoose? s) }, rest)

/-- Each member may come once, under any of its names. Others are passed over. -/
def readMember (answerNames : List String) (d : EntryDraft) (key : String) (input : List Piece) :
    Option (EntryDraft × List Piece) :=
  if key = "prompt" then if d.prompt.isSome then none else d.readPrompt input
  else if answerNames.contains key then if d.answer.isSome then none else d.readAnswer input
  else if key = "createdAt" then if d.createdAt.isSome then none else d.readCreatedAt input
  else (Json.skipValue input).map fun rest => (d, rest)

def reader (answerNames : List String) : RecordReader EntryDraft where
  empty := ⟨none, none, none⟩
  member := readMember answerNames
  positions := [readPrompt, readAnswer, readCreatedAt]

/-- The entry, if all its members have come. -/
def complete? (d : EntryDraft) : Option Entry := do
  some ⟨← d.prompt, ← d.answer, ← d.createdAt⟩

end EntryDraft

namespace Entry

/-- Reads an entry from JSON text. -/
def parse? (s : String) : Option Entry := do
  let draft ← Json.document? (EntryDraft.reader ["answer"]).read (Text.piecesOfText s)
  draft.complete?

/-- Reads a past entry. Without an answer it has an empty one. -/
def readPast (input : List Piece) : Option (Entry × List Piece) := do
  let (draft, rest) ← (EntryDraft.reader ["answer", "graphqlResponse"]).read input
  some (← { draft with answer := some (draft.answer.getD "") }.complete?, rest)

/-- Reads the list of past entries that the backend sends. -/
def parsePast? (s : String) : Option (List Entry) :=
  Json.document? (Json.readList readPast) (Text.piecesOfText s)

end Entry

end ChatClient
