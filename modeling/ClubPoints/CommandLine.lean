/-!
# The command line

The program seeds the demonstration club. One option adds a completed match, and an option may be
shortened as long as it starts like no other.
-/

namespace ClubPoints

inductive CommandLine where
  | seed (withMatch : Bool)
  | help
  | wrong (message : String)
deriving DecidableEq

namespace CommandLine

def usage : String := "usage: seed [-h] [--demo-progress]"

def helpText : String := usage ++ "\n\nSeed club scoring data.\n\noptions:\n" ++
  "  -h, --help       show this help message and exit\n" ++
  "  --demo-progress  Seed with a completed match so leaderboards have data.\n"

/-- Whether an argument is an option or a beginning of it that starts like no other. -/
def names (argument option : String) : Bool :=
  decide (2 < argument.length) && argument.toList.isPrefixOf option.toList

def beforeEquals? (argument : String) : Option String :=
  let name := argument.toList.takeWhile (· ≠ '=')
  if name.length < argument.length then some (String.ofList name) else none

def isOption (argument : String) : Bool :=
  names argument "--demo-progress" || names argument "--help"

/-- Whether an argument that starts with the short option for help asks for help. Short options may
be joined, also behind an equals sign, and there is no other one. -/
def asksForHelp? (argument : String) : Option Bool :=
  match argument.toList with
  | ['-', 'h'] => some true
  | '-' :: 'h' :: '=' :: joined => some (!joined.isEmpty && joined.all (· == 'h'))
  | '-' :: 'h' :: joined => some (joined.all (· == 'h'))
  | _ => none

/-- Reads the arguments from the first to the last. Options without a meaning are reported once all
are read, unless help is asked for. -/
def readFrom (withMatch : Bool) (unknown : List String) : List String → CommandLine
  | [] =>
    if unknown.isEmpty then .seed withMatch
    else .wrong ("unrecognized arguments: " ++ " ".intercalate unknown.reverse)
  | "--" :: rest =>
    .wrong ("unrecognized arguments: " ++ " ".intercalate (unknown.reverse ++ "--" :: rest))
  | argument :: rest =>
    match asksForHelp? argument with
    | some true => .help
    | some false => .wrong "ignored explicit argument"
    | none =>
      if names argument "--help" then .help
      else if names argument "--demo-progress" then readFrom true unknown rest
      else if (beforeEquals? argument).any isOption then .wrong "ignored explicit argument"
      else readFrom withMatch (argument :: unknown) rest

def isAmbiguous (argument : String) : Bool := beforeEquals? argument == some "--"

/-- Reads the arguments. One that could mean two options is refused before others are looked at. -/
def read (arguments : List String) : CommandLine :=
  match (arguments.takeWhile (· ≠ "--")).find? isAmbiguous with
  | some argument => .wrong ("ambiguous option: " ++ argument)
  | none => readFrom false [] arguments

def report (withMatch : Bool) : String :=
  if withMatch then "Seed completed (demo)\n" else "Seed completed (fresh)\n"

end CommandLine

end ClubPoints
