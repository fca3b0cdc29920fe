import ChatClient.Http.Wire.Redirect

/-!
Requests and their replies over a connection. A server gets a request and sends bytes; the reply is the
response that they are, or what became of the request otherwise. Redirections are followed.
-/
namespace ChatClient.Http

/-- A server takes requests one by one. It answers with bytes, none if it ends the connection, and then the
connection is over. -/
abbrev Server (σ : Type) := σ → WireRequest → List UInt8 × σ

/-- The failure of a request that nobody answers. -/
def unanswered (url : Url) : Reply :=
  .error (.request ("error sending request for url (" ++ url.text ++ ")"))

/-- The failure of a request that has been led on too often. -/
def ledAstray (url : Url) : Reply :=
  .error (.request ("error following redirect for url (" ++ url.text ++ ")"))

/-- The reply that a response is. Bytes of the body that are no text are replaced. -/
def replyOf (head : Head) : Content → Reply
  | .whole body => .ok ⟨head.status, Text.decodeUtf8Lossy body⟩
  | .broken => .error (.request "error decoding response body")

/-- What the server has to say to a request. -/
def ask (server : Server σ) (s : σ) (r : WireRequest) : Option (Head × Content) × σ :=
  match r.framed? with
  | some framed =>
    let (bytes, s) := server s framed
    (readResponse? bytes, s)
  | none => (none, s)

/-- Sends a request, and goes where it is led, as often as `left` says. `first` is the address that was
asked at first, and the headers of `r` are those that were sent there. -/
def follow (server : Server σ) (first : Url) (left : Nat) (s : σ) (r current : WireRequest) : Reply × σ :=
  match ask server s current with
  | (none, s) => (unanswered first, s)
  | (some (head, content), s) =>
    if !isRedirection head.status then (replyOf head content, s)
    else match head.location? current.url with
      | none => (replyOf head content, s)
      | some next =>
        match left with
        | 0 => (ledAstray { current.url with fragment := none }, s)
        | left + 1 =>
          if !isWebScheme next.scheme then (.error (unaskable next), s)
          else
            let r := r.after head.status
            follow server first left s r (r.movedTo next current.url)

/-- Sends a request to a server below the base address. -/
def exchange (server : Server σ) (base : Url) (s : σ) (r : Request) : Reply × σ :=
  match prepare base r with
  | .error e => (.error e, s)
  | .ok wire => follow server wire.url redirectionLimit s wire wire

/-- The network where nobody answers. -/
def nobody : Server Unit := fun s _ => ([], s)

end ChatClient.Http
