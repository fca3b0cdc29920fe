import ChatClient.CommandLine.Basic
import ChatClient.Environment.Basic

/-!
Reading a command line. Arguments are taken one by one: the first that is wrong, or asks for help,
decides, and only then is looked at what is missing. An option may come once; its value is the next
argument, or follows an equals sign. After two dashes all arguments are words.
-/
namespace ChatClient.CommandLine

inductive Argument
  | separator
  | long (name : String) (value : Option String)
  /-- One dash and letters, of which the first counts. -/
  | short (letter : Char)
  | word (s : String)

/-- Tells by its dashes what an argument is. A dash alone is a word. -/
def Argument.ofString (s : String) : Argument :=
  match s.toList with
  | ['-', '-'] => .separator
  | '-' :: '-' :: rest =>
    let (name, value) := Text.cutAt '=' (String.ofList rest)
    .long name value
  | '-' :: letter :: _ => .short letter
  | _ => .word s

/-- Whether an argument can be the value of the option before it. -/
def isValue (s : String) : Bool :=
  Argument.ofString s matches .word _

/-- The options and words that have been read. -/
structure Arguments where
  options : List (String × String)
  words : List String

def Arguments.none : Arguments := ⟨[], []⟩

def Arguments.option? (name : String) (a : Arguments) : Option String :=
  (a.options.find? (·.1 = name)).map (·.2)

/-- Why the reading of arguments stops. -/
inductive Stop
  | help
  | misuse

namespace Form

/-- Adds an option that the form has and that has not come before. -/
def addOption (f : Form) (name value : String) (a : Arguments) : Except Stop Arguments :=
  match f.options.find? (·.1 = name) with
  | some (_, takes) =>
    if takes value ∧ (a.option? name).isNone then .ok { a with options := a.options ++ [(name, value)] }
    else .error .misuse
  | none => .error .misuse

def addWords (f : Form) (words : List String) (a : Arguments) : Except Stop Arguments :=
  if f.takesWords ∨ words = [] then .ok { a with words := a.words ++ words } else .error .misuse

/-- Reads arguments behind those that have been read. -/
def read (f : Form) (a : Arguments) : List String → Except Stop Arguments
  | [] => .ok a
  | s :: rest =>
    match Argument.ofString s with
    | .separator => f.addWords rest a
    | .word s => do f.read (← f.addWords [s] a) rest
    | .short letter => .error (if letter = 'h' then .help else .misuse)
    | .long name (some value) => do f.read (← f.addOption name value a) rest
    | .long name none =>
      if name = "help" then .error .help
      else match rest with
        | [] => .error .misuse
        | value :: rest =>
          if isValue value then do f.read (← f.addOption name value a) rest else .error .misuse

end Form

def passwordVariable : String := "GAIT_PASSWORD"

/-- The password may also be in the environment. -/
def password? (env : Environment) (a : Arguments) : Option String :=
  a.option? "password" <|> env passwordVariable

/-- The command of a verb, unless something is missing. The words of a question are joined by blanks. -/
def command? (env : Environment) (verb : Verb) (a : Arguments) : Option Command :=
  match verb with
  | .login => do some (.login (← a.option? "email") (← password? env a))
  | .register => do
    some (.register ⟨← a.option? "fullname", ← a.option? "email", ← password? env a,
      (a.option? "age").bind age?⟩)
  | .ask => if a.words.isEmpty then none else some (.ask (String.intercalate " " a.words))
  | .logout => some .logout
  | .status => some .status
  | .history => some .history
  | .chat => some .chat

def readCommand (env : Environment) (verb : Verb) (args : List String) : Wish :=
  match verb.form.read .none args with
  | .ok a =>
    match command? env verb a with
    | some command => .run command
    | none => .misuse
  | .error .help => .help (some verb)
  | .error .misuse => .misuse

/-- What is asked about, after the word help. -/
def readTopic : List String → Wish
  | [] | ["help"] => .help none
  | [name] =>
    match Verb.named? name with
    | some verb => .help (some verb)
    | none => .misuse
  | _ => .misuse

/-- Reads a command line. -/
def read (env : Environment) : List String → Wish
  | [] => .misuse
  | s :: rest =>
    match Verb.named? s with
    | some verb => readCommand env verb rest
    | none =>
      match Argument.ofString s with
      | .word "help" => readTopic rest
      | .long "help" none | .short 'h' => .help none
      | .long "version" none | .short 'V' => .version
      | _ => .misuse

end ChatClient.CommandLine
