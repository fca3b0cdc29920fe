import ChatClient.Http.Message

/-!
How sending a prompt or loading the history can fail.
-/
namespace ChatClient

inductive SendError
  | emptyPrompt
  | unauthorized
  | network (detail : String)
  | emptyAnswer
  | superseded
  | cancelled
  | nothingToResend
deriving DecidableEq

def SendError.message : SendError → String
  | .emptyPrompt => "prompt is empty"
  | .unauthorized => "session is not authorized"
  | .network detail => "could not reach the backend: " ++ detail
  | .emptyAnswer => "backend returned an empty answer"
  | .superseded => "superseded by a newer request"
  | .cancelled => "session ended before the answer arrived"
  | .nothingToResend => "nothing to resend"

/-- Sending the same prompt again may help. -/
def SendError.isRetryable : SendError → Bool
  | .network _ | .emptyAnswer => true
  | _ => false

inductive FetchError
  | notAuthenticated
  | unauthorized
  | network (detail : String)
  | decode (detail : String)
  | cancelled
deriving DecidableEq

def FetchError.message : FetchError → String
  | .notAuthenticated => "not logged in"
  | .unauthorized => "session is not authorized"
  | .network detail => "could not reach the backend: " ++ detail
  | .decode detail => "history payload could not be decoded: " ++ detail
  | .cancelled => "session ended before history arrived"

end ChatClient
