import ClubPoints.Fault
import ClubPoints.Text.Blank
import ClubPoints.Text.LetterCase
import ClubPoints.Text.Quoted

/-!
# Settings

The settings of the service, read from named texts of its environment; a name that is not set takes
its default. A flag is on for a few words only, and off for everything else.
-/

namespace ClubPoints

structure Settings where
  appName : String := "Club Scoring API"
  databaseUrl : Option String := none
  corsOrigins : List String := ["http://localhost:3000", "http://127.0.0.1:3000"]
  autoSeedOnEmpty : Bool := true
  logLevel : String := "INFO"
  persistAutomaticPoints : Bool := true
deriving DecidableEq

namespace Settings

def isOn (word : String) : Bool :=
  ["1", "true", "yes", "on"].contains (Text.lower (Text.strip word))

def splitOrigins (raw : String) : List String :=
  ((Text.splitAt ',' raw.toList).map fun part => Text.strip (String.ofList part)).filter (· ≠ "")

def ofEnvironment (env : String → Option String) : Settings where
  appName := (env "APP_NAME").getD "Club Scoring API"
  databaseUrl := env "DATABASE_URL"
  corsOrigins := match env "CORS_ORIGINS" with
    | some raw => splitOrigins raw
    | none => ["http://localhost:3000", "http://127.0.0.1:3000"]
  autoSeedOnEmpty := (env "AUTO_SEED_ON_EMPTY").all isOn
  logLevel := (env "LOG_LEVEL").getD "INFO"
  persistAutomaticPoints := (env "PERSIST_AUTOMATIC_POINTS").all isOn

/-- The address of the database: that of the file in the given folder unless one is set, with the
two short names of the network database replaced by the full one. -/
def databaseAddress (folder : String) (raw : Option String) : String :=
  match raw.filter (· ≠ "") with
  | none => s!"sqlite:///{folder}/scoring.db"
  | some url =>
    match ["postgres://", "postgresql://"].find? fun scheme => url.startsWith scheme with
    | some scheme => "postgresql+psycopg://" ++ (url.drop scheme.length).toString
    | none => url

def levels : List (String × Nat) := [
  ("CRITICAL", 50), ("FATAL", 50), ("ERROR", 40), ("WARNING", 30), ("WARN", 30), ("INFO", 20),
  ("DEBUG", 10), ("NOTSET", 0)]

def styles : List (Char × String × String) := [
  ('%', "PercentStyle", "%(levelname)s:%(name)s:%(message)s"),
  ('\x7b', "StrFormatStyle", "\x7blevelname\x7d:\x7bname\x7d:\x7bmessage\x7d"),
  ('$', "StringTemplateStyle", "$\x7blevelname\x7d:$\x7bname\x7d:$\x7bmessage\x7d")]

def stylesText : String :=
  "\x7b" ++ ", ".intercalate (styles.map fun (mark, style, format) =>
    Text.quoted (String.singleton mark) ++ ": (<class 'logging." ++ style ++ "'>, " ++
      Text.quoted format ++ ")") ++ "\x7d"

/-- Names that stand for something else than a level. -/
def otherNames : List (String × Fault) := [
  ("BASIC_FORMAT", .unknownLevel (Text.quoted "%(levelname)s:%(name)s:%(message)s")),
  ("_STYLES", .noLevel stylesText)]

/-- The number of a level, its name in any letter case; an unknown name is that of information. -/
def levelNumber (name : String) : Except Fault Nat :=
  let key := Text.upper name
  match otherNames.lookup key with
  | some fault => .error fault
  | none => .ok ((levels.lookup key).getD 20)

end Settings

end ClubPoints
