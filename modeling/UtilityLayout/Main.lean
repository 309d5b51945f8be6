import UtilityLayout.Json.Reader
import UtilityLayout.Launch
import UtilityLayout.Store.Shipped
/-! The program. After the command line is settled, every line of standard input asks one tool, as a JSON
object with the members `tool` and `args`, and every answer is one line. Files live in memory for the time
of the run; the library is there from the start. -/
namespace UtilityLayout.Main

def answerLine (w : Workspace) (line : String) : String × Workspace :=
  match (Json.read? line).bind Service.Request.ofCall? with
  | some request => Service.reply w request
  | none => ((Service.error "unknown request").render, w)

partial def serve (input output : IO.FS.Stream) (w : Workspace) : IO Unit := do
  let line ← input.getLine
  if line.isEmpty then return
  let (answer, w) := answerLine w line
  output.putStrLn answer
  output.flush
  serve input output w

end UtilityLayout.Main

open UtilityLayout in
def main (arguments : List String) : IO UInt32 := do
  let environment? ← IO.getEnv Launch.environmentName
  let home := Path.ofText ((← IO.getEnv "PWD").getD "/")
  match Launch.ofArguments home.parts environment? arguments with
  | .error (.exit exit) =>
    (← IO.getStdout).putStr exit.standardOutput
    (← IO.getStderr).putStr exit.standardError
    return exit.code.toUInt32
  | .error (.failure cause) =>
    (← IO.getStderr).putStr (cause.message ++ "\n")
    return 1
  | .error .noDirectory =>
    (← IO.getStderr).putStr (Launch.Stop.noDirectoryMessage ++ "\n")
    return 1
  | .ok launch =>
    Main.serve (← IO.getStdin) (← IO.getStdout) (launch.workspace Shipped.directory (Shipped.files home))
    return 0
