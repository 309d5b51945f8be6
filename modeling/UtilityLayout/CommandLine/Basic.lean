import UtilityLayout.Files.Path
import UtilityLayout.Numeral.Whole
import UtilityLayout.Text.Quoted
/-! The command line of the server: its options, what it settles, and the texts it answers with. -/
namespace UtilityLayout

inductive Transport where
  | stdio
  | http
  deriving DecidableEq, Repr

def Transport.name : Transport → String
  | stdio => "stdio"
  | http => "http"

def Transport.ofName? (text : String) : Option Transport :=
  [stdio, http].find? (·.name == text)

/- What an option was given: a value, or nothing, which two hyphens attached to the option stand for. -/
inductive Given (α : Type) where
  | value (a : α)
  | nothing
  deriving DecidableEq, Repr

structure Settings where
  transport : Given Transport := .value .stdio
  port : Given Int := .value 8000
  themesDirectory? : Option (Given Path) := none
  debug : Bool := false
  deriving DecidableEq, Repr

namespace CommandLine

inductive Opt where
  | help
  | transport
  | port
  | themesDirectory
  | debug
  deriving DecidableEq, Repr

namespace Opt

def all : List Opt := [help, transport, port, themesDirectory, debug]

def long : Opt → String
  | help => "--help"
  | transport => "--transport"
  | port => "--port"
  | themesDirectory => "--themes-dir"
  | debug => "--debug"

def takesValue : Opt → Bool
  | help | debug => false
  | _ => true

def title : Opt → String
  | help => "-h/--help"
  | o => o.long

end Opt

inductive UsageError where
  | ambiguous (written : String) (candidates : List Opt)
  | noValue (o : Opt)
  | unwantedValue (o : Opt) (value : String)
  | noTransport (value : String)
  | noNumber (value : String)
  | unrecognized (arguments : List String)
  deriving DecidableEq, Repr

inductive Exit where
  | help
  | usage (cause : UsageError)
  deriving DecidableEq, Repr

def program : String := "chuk-mcp-tailwind"

def choices : String :=
  ", ".intercalate ([Transport.stdio, .http].map fun t => Text.quoted t.name)

def UsageError.message : UsageError → String
  | ambiguous written candidates =>
    "ambiguous option: " ++ written ++ " could match " ++ ", ".intercalate (candidates.map Opt.long)
  | noValue o => "argument " ++ o.title ++ ": expected one argument"
  | unwantedValue o value =>
    "argument " ++ o.title ++ ": ignored explicit argument " ++ Text.quoted value
  | noTransport value =>
    "argument --transport: invalid choice: " ++ Text.quoted value ++ " (choose from " ++ choices ++ ")"
  | noNumber value => "argument --port: invalid int value: " ++ Text.quoted value
  | unrecognized arguments => "unrecognized arguments: " ++ " ".intercalate arguments

def usage : String :=
  "usage: " ++ program ++ " [-h] [--transport \x7bstdio,http\x7d] [--port PORT]\n" ++
  "                         [--themes-dir THEMES_DIR] [--debug]\n"

def helpText : String :=
  usage ++
  "\nServe Tailwind -> Flutter conversion over MCP\n" ++
  "\noptions:\n" ++
  "  -h, --help            show this help message and exit\n" ++
  "  --transport \x7bstdio,http\x7d\n" ++
  "  --port PORT           HTTP port (http only)\n" ++
  "  --themes-dir THEMES_DIR\n" ++
  "                        Project themes directory (default: ./themes)\n" ++
  "  --debug               Log at DEBUG level\n"

namespace Exit

def code : Exit → Nat
  | help => 0
  | usage _ => 2

def standardOutput : Exit → String
  | help => helpText
  | usage _ => ""

def standardError : Exit → String
  | help => ""
  | usage cause => CommandLine.usage ++ program ++ ": error: " ++ cause.message ++ "\n"

end Exit
end CommandLine
end UtilityLayout
