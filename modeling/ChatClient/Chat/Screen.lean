import ChatClient.Conversation.Slot
import ChatClient.Time.Rfc3339
import ChatClient.Session.Basic

/-!
What the user is shown: the current slot, the history as a numbered list, the status of the session.
-/
namespace ChatClient.Screen

/-- How much of a prompt a list shows. -/
def snippetLength : Nat := 20

/-- The first `n` characters, and three dots if anything follows them. -/
def cutOff : Nat → List Char → List Char
  | _, [] => []
  | 0, _ :: _ => ['.', '.', '.']
  | n + 1, c :: cs => c :: cutOff n cs

theorem cutOff_of_length_le {cs : List Char} (h : cs.length ≤ n) : cutOff n cs = cs := by
  induction cs generalizing n with
  | nil => rw [cutOff]
  | cons c cs ih =>
    cases n with
    | zero => cases h
    | succ n => rw [cutOff, ih (Nat.le_of_succ_le_succ h)]

theorem cutOff_of_lt_length {cs : List Char} (h : n < cs.length) :
    cutOff n cs = cs.take n ++ ['.', '.', '.'] := by
  induction cs generalizing n with
  | nil => cases h
  | cons c cs ih =>
    cases n with
    | zero => rfl
    | succ n => rw [cutOff, ih (Nat.lt_of_succ_lt_succ h), List.take_succ_cons, List.cons_append]

/-- A prompt in a list: without white space around it, and cut off after twenty characters. -/
def snippet (s : String) : String :=
  String.ofList (cutOff snippetLength (Text.trimChars s.toList))

/-- A snippet with its dots. -/
def snippetWidth : Nat := 23

def entry (e : Entry) : String :=
  "[" ++ e.createdAt.minuteText ++ "]\n> " ++ e.prompt ++ "\n" ++ e.answer

/-- What the user is told of a prompt that has failed. -/
def sendError (e : SendError) : String :=
  if e = .unauthorized then "Your session has ended. Run \x60gait login\x60 again."
  else if e.isRetryable then "Failed: " ++ e.message ++ ". \x60:retry\x60 to try again."
  else "Failed: " ++ e.message ++ "."

def slot : Slot → String
  | .empty => "Ask a question to get started."
  | .pending _ e => "> " ++ e.prompt ++ "\n(waiting for an answer...)"
  | .resolved e .fresh => entry e
  | .resolved e .history => entry e ++ "\n(from history, \x60:redo\x60 to ask again)"
  | .failed e error => "> " ++ e.prompt ++ "\n" ++ sendError error

/-- One line of the history. -/
def historyLine (number : Nat) (e : Entry) : String :=
  Text.padLeft 3 ' ' (toString number) ++ ". " ++ Text.padRight snippetWidth (snippet e.prompt) ++ " " ++
    e.createdAt.minuteText

/-- The history as a list, numbered from one. -/
def history (entries : List Entry) : String :=
  if entries.isEmpty then "No history yet."
  else String.intercalate "\n" (entries.mapIdx fun i e => historyLine (i + 1) e)

def status (s : Status) (credential : Option Token.Credential) : String :=
  match s, credential with
  | .authenticated, some c =>
    let who := c.subject?.getD "unknown user"
    match c.expiry? with
    | some expiry => "Logged in as " ++ who ++ " until " ++ expiry.textWith "+00:00"
    | none => "Logged in as " ++ who
  | .authenticated, none => "Logged in"
  | .anonymous, _ => "Not logged in. Run \x60gait login\x60."

end ChatClient.Screen
