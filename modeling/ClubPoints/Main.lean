import ClubPoints.CommandLine
import ClubPoints.Seed
import ClubPoints.Settings

/-!
# The program

Seeds the demonstration club and says so.
-/

open ClubPoints

def main (arguments : List String) : IO UInt32 := do
  match CommandLine.read arguments with
  | .help =>
    IO.print CommandLine.helpText
    return 0
  | .wrong message =>
    IO.eprintln (CommandLine.usage ++ "\n" ++ message)
    return 2
  | .seed withMatch =>
    let flag ← IO.getEnv "PERSIST_AUTOMATIC_POINTS"
    match Seed.store withMatch (flag.all Settings.isOn) with
    | .ok _ =>
      IO.print (CommandLine.report withMatch)
      return 0
    | .error cause =>
      IO.eprintln cause.message
      return 1
