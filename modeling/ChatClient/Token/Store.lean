import ChatClient.Files.Tree

/-!
Where the session token is kept between requests: in memory, or in a file that lasts longer than the
program. A store does not look into the token. A file is read without the white space around it, and a
blank file holds no token; memory gives back what was put in.
-/
namespace ChatClient.Token

/-- Why a token could not be put into a file or taken out. -/
inductive StoreError
  | create (directory : String) (cause : Files.OsError)
  | openFile (path : String) (cause : Files.OsError)
  /-- The file has been opened, and holds what could be written of the token. -/
  | writeFile (cause : Files.OsError)
  | remove (path : String) (cause : Files.OsError)
deriving DecidableEq

def StoreError.message : StoreError → String
  | .create directory cause => "failed to create " ++ directory ++ ": " ++ cause.message
  | .openFile path cause => "failed to open " ++ path ++ ": " ++ cause.message
  | .writeFile cause => cause.message
  | .remove path cause => "failed to remove " ++ path ++ ": " ++ cause.message

inductive Store
  /-- A token or none, and how many times one has been put in. -/
  | memory (token : Option String) (writes : Nat)
  | file (path : String) (tree : Files.Tree)
deriving DecidableEq

namespace Store

/-- A new token file may be read and written by its owner and nobody else. -/
def privateMode : Nat := 0o600

/-- The token that the bytes of a file hold. -/
def tokenOfBytes? (data : List UInt8) : Option String := do
  let token := Text.trim (← Text.decodeUtf8? data)
  if token = "" then none else some token

/-- The token. A file that cannot be read, or is no text, holds none. -/
def get? : Store → Option String
  | .memory token _ => token
  | .file path tree =>
    match tree.read path with
    | .ok data => tokenOfBytes? data
    | .error _ => none

/-- Makes the directories in which the file of a path lies. -/
def makeRoom (fate : Files.Fate) (path : String) (tree : Files.Tree) :
    Except StoreError Unit × Files.Tree :=
  match Files.parent? path with
  | none => (.ok (), tree)
  | some above =>
    match tree.makeDirectoriesAs fate above with
    | (.ok (), tree) => (.ok (), tree)
    | (.error e, tree) => (.error (.create above e), tree)

/-- Puts a token in. For a file the directories above it are made first, and stay if the file cannot
be written. A file that is opened has lost what it held, also where writing it fails. -/
def set (token : String) : Store → Except StoreError Unit × Store
  | .memory _ writes => (.ok (), .memory (some token) (writes + 1))
  | .file path tree =>
    match makeRoom tree.nextFate path tree.dropFate with
    | (.error e, made) => (.error e, .file path made)
    | (.ok (), made) =>
      match made.writeAs tree.nextFate path (Text.encodeUtf8 token) privateMode with
      | .error e => (.error (.openFile path e), .file path made)
      | .ok written =>
        match tree.nextFate.unfinished? with
        | some e => (.error (.writeFile e), .file path written)
        | none => (.ok (), .file path written)

/-- Takes the token out. It is no error if there is none. -/
def clear : Store → Except StoreError Unit × Store
  | .memory _ writes => (.ok (), .memory none writes)
  | .file path tree =>
    match tree.remove path with
    | .ok tree => (.ok (), .file path tree)
    | .error .notFound => (.ok (), .file path tree)
    | .error e => (.error (.remove path e), .file path tree)

/-- How many times a token has been put into memory. -/
def writes? : Store → Option Nat
  | .memory _ writes => some writes
  | .file .. => none

end Store

end ChatClient.Token
