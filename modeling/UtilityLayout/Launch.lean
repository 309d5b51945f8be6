import UtilityLayout.CommandLine.Parsing
import UtilityLayout.Service
/-! From the command line and the environment to a server: which transport runs, how much is logged, and
where the themes of the project are. A directory given on the command line is made absolute and goes before
one from the environment, which is taken as it is; the last resort is a directory below the working
directory. -/
namespace UtilityLayout

namespace Launch

def environmentName : String := "CHUK_TAILWIND_THEMES_DIR"

def serverName : String := "chuk-mcp-tailwind"

inductive LogLevel where
  | info
  | debug
  deriving DecidableEq, Repr

def LogLevel.name : LogLevel → String
  | info => "INFO"
  | debug => "DEBUG"

end Launch

structure Launch where
  transport : Transport
  port : Given Int
  level : Launch.LogLevel
  environment? : Option String
  themesDirectory : Path
  deriving DecidableEq, Repr

namespace Launch

def environmentAfter (workingDirectory : Location) (environment? : Option String)
    (directory? : Option Path) : Option String :=
  match directory? with
  | some path => some (path.absolute workingDirectory).text
  | none => environment?

def directoryFrom (workingDirectory : Location) (environment? : Option String) : Path :=
  match environment? with
  | some text => if text.isEmpty then ⟨.root, workingDirectory ++ ["themes"]⟩ else .ofText text
  | none => ⟨.root, workingDirectory ++ ["themes"]⟩

def transportOf (transport : Given Transport) : Transport :=
  if transport = .value .stdio then .stdio else .http

def ofSettings (workingDirectory : Location) (environment? : Option String) (s : Settings)
    (directory? : Option Path) : Launch :=
  let environment? := environmentAfter workingDirectory environment? directory?
  ⟨transportOf s.transport, s.port, if s.debug then .debug else .info, environment?,
    directoryFrom workingDirectory environment?⟩

def hasNull (path : Path) : Bool :=
  path.parts.any fun part => part.toList.contains '\x00'

inductive Stop where
  | exit (cause : CommandLine.Exit)
  | failure (cause : FileError)
  | noDirectory
  deriving DecidableEq, Repr

namespace Stop

def noDirectoryMessage : String :=
  "'list' object has no attribute 'resolve'"

end Stop

def directory? : Option (Given Path) → Except Stop (Option Path)
  | none => .ok none
  | some .nothing => .error .noDirectory
  | some (.value path) =>
    if hasNull path then .error (.failure ⟨.nullCharacter, path⟩) else .ok (some path)

def ofArguments (workingDirectory : Location) (environment? : Option String)
    (arguments : List String) : Except Stop Launch := do
  let settings ← (CommandLine.parse arguments).mapError .exit
  let directory? ← directory? settings.themesDirectory?
  pure (ofSettings workingDirectory environment? settings directory?)

def workspace (l : Launch) (library : Path) (files : FileTree) : Workspace :=
  ⟨files, .fresh library (some l.themesDirectory)⟩

end Launch
end UtilityLayout
