import ChatClient.Chat.Basic

/-!
A whole chat over an input that is given as bytes. The input is read line by line, and only as far as
the chat goes on, so that nothing after its end has an effect.
-/
namespace ChatClient.Chat

/-- Said of a line that is no text. -/
def notText : String := "stream did not contain valid UTF-8"

/-- A line without the carriage return at its end. -/
def dropReturn (bytes : List UInt8) : List UInt8 :=
  match bytes.reverse with
  | 13 :: rest => rest.reverse
  | _ => bytes

/-- The lines of the parts between line feeds, none for a line that is no text. After the last line
feed there is a line only if something stands there. -/
def linesOf : List (List UInt8) → List (Option String)
  | [] => []
  | [last] => if last.isEmpty then [] else [Text.decodeUtf8? last]
  | part :: parts => Text.decodeUtf8? (dropReturn part) :: linesOf parts

def inputLines (bytes : List UInt8) : List (Option String) :=
  linesOf (Text.cutAll 10 bytes)

/-- Handles the next line of an input. One that is no text ends the chat in an error. -/
def takeLine (answer : Network σ) (now : Time.Instant) (chat : Chat σ) :
    Option String → Except String Flow × String × Chat σ
  | none => (.error notText, "", chat)
  | some text => (chat.handleLine answer now text).map .ok id

/-- Handles lines until one of them ends the chat. The clock is read for each. -/
def handleLines (answer : Network σ) (clock : Time.Clock) (chat : Chat σ) :
    List (Option String) → Except String Unit × String × Chat σ
  | [] => (.ok (), "", chat)
  | next :: rest =>
    match chat.takeLine answer (clock 0) next with
    | (.error message, out, chat) => (.error message, out, chat)
    | (.ok .quit, out, chat) => (.ok (), out, chat)
    | (.ok .continue, out, chat) =>
      let (result, more, chat) := handleLines answer clock.later chat rest
      (result, out ++ more, chat)

/-- A chat from its beginning to its end. -/
def run (answer : Network σ) (clock : Time.Clock) (input : List UInt8) (chat : Chat σ) :
    Except String Unit × String × Chat σ :=
  match chat.enter answer clock with
  | (.quit, out, chat) => (.ok (), out, chat)
  | (.continue, out, chat) =>
    let (result, more, chat) := handleLines answer clock.later.later chat (inputLines input)
    (result, out ++ more, chat)

end ChatClient.Chat
