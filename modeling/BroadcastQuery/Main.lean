import BroadcastQuery.Console

/-!
The console as a program: it reads the configuration file of the working directory, then answers
the lines of standard input until they end or the session is quit.
-/
namespace BroadcastQuery.Main

def reasonOf : IO.Error → String
  | .otherError code details | .unsupportedOperation code details
  | .illegalOperation code details | .hardwareFault code details
  | .inappropriateType _ code details | .permissionDenied _ code details =>
    details ++ " (os error " ++ toString code ++ ")"
  | error => toString error

def readFile (path : String) : IO Config.File := do
  try
    return .content (← IO.FS.readBinFile path)
  catch
    | .noFileOrDirectory .. => return .absent
    | error => return .unreadable (reasonOf error)

/-- Answers lines until there are no more, or one ends the session. -/
partial def answerLines (checker : Checker) (settings : Console.Settings) (input : IO.FS.Stream) :
    IO Console.Ending := do
  let line ← input.getLine
  if line.isEmpty then return .finished
  let line := Console.Line.ofText (line.toList.takeWhile (· != '\n'))
  if let some ending := line.ending then return ending
  let (settings, printed) := settings.step checker line
  printed.forM IO.println
  answerLines checker settings input

end BroadcastQuery.Main

open BroadcastQuery in
def main : IO UInt32 := do
  let (config, loaded) := Console.load (← Main.readFile Console.configPath)
  (Console.greeting loaded).forM IO.println
  let ending ← Main.answerLines (.ofConfig config) .initial (← IO.getStdin)
  return ending.code.toUInt32
