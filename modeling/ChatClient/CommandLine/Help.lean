import ChatClient.CommandLine.Basic
import ChatClient.Text.Blank

/-!
What the program says about itself.
-/
namespace ChatClient.CommandLine

def programName : String := "gait"

def versionText : String := programName ++ " 0.1.0"

def Verb.summary : Verb → String
  | .login => "Log in and remember the session"
  | .register => "Create an account. Log in afterwards"
  | .logout => "Forget the stored session"
  | .status => "Show whether a session is active"
  | .ask => "Ask a single question"
  | .history => "List past questions"
  | .chat => "Interactive session"

/-- The arguments of a command, in the order in which they are usually given. -/
def Verb.usage : Verb → String
  | .login => " --email <EMAIL> --password <PASSWORD>"
  | .register => " [OPTIONS] --fullname <FULLNAME> --email <EMAIL> --password <PASSWORD>"
  | .ask => " <PROMPT>..."
  | .logout | .status | .history | .chat => ""

def commandLine (name summary : String) : String :=
  "  " ++ Text.padRight 8 name ++ "  " ++ summary

def helpText : Option Verb → String
  | none =>
    String.intercalate "\n" (["Ask the GAIT backend questions from the terminal", "",
      "Usage: " ++ programName ++ " <COMMAND>", "", "Commands:"] ++
      Verb.all.map (fun verb => commandLine verb.name verb.summary) ++
      [commandLine "help" "Print this message or the help of the given subcommand(s)", "", "Options:",
        "  -h, --help     Print help", "  -V, --version  Print version"])
  | some verb =>
    String.intercalate "\n" [verb.summary, "",
      "Usage: " ++ programName ++ " " ++ verb.name ++ verb.usage, "", "Options:",
      "  -h, --help  Print help"]

/-- What is said when the command line makes no sense. -/
def misuseText : String :=
  "error: wrong arguments\n\nUsage: " ++ programName ++ " <COMMAND>\n\nFor more information, try '--help'."

end ChatClient.CommandLine
