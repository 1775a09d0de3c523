import ClubPoints.Text.CaseTable

/-!
# Letter case

Upper and lower case of a text by the full mappings of the character standard, in which a letter may
become several, and by the mapping of the basic Latin letters alone. A capital sigma that closes a
word has a lower case of its own.
-/

namespace ClubPoints.Text

def inRanges (ranges : List (Nat × Nat)) (c : Char) : Bool :=
  ranges.any fun (first, last) => first ≤ c.toNat && c.toNat ≤ last

def CaseRun.maps (run : CaseRun) (n : Nat) : Bool :=
  run.first ≤ n && n ≤ run.last && (n - run.first) % run.step == 0

def mapByRuns (runs : List CaseRun) (c : Char) : Char :=
  match runs.find? fun run => run.maps c.toNat with
  | some run => Char.ofNat ((c.toNat : Int) + run.shift).toNat
  | none => c

def upperChar (c : Char) : List Char :=
  match upperExpansions.lookup c.toNat with
  | some codes => codes.map Char.ofNat
  | none => [mapByRuns upperRuns c]

def upper (s : String) : String :=
  String.ofList (s.toList.flatMap upperChar)

def besideLetter (near : List Char) : Bool :=
  match near.find? fun c => !inRanges caseIgnorableRanges c with
  | some c => inRanges casedRanges c
  | none => false

/-- The lower case of one character between the characters before it, nearest first, and those
after it. -/
def lowerChar (before : List Char) (c : Char) (after : List Char) : List Char :=
  if c = 'Σ' then
    if besideLetter before && !besideLetter after then ['ς'] else ['σ']
  else if c = 'İ' then ['i', '\u0307']
  else [mapByRuns lowerRuns c]

def lowerFrom (before : List Char) : List Char → List Char
  | [] => []
  | c :: rest => lowerChar before c rest ++ lowerFrom (c :: before) rest

def lower (s : String) : String :=
  String.ofList (lowerFrom [] s.toList)

/-- The lower case of the letters A to Z; every other character stays. -/
def lowerBasic (s : String) : String :=
  s.map Char.toLower

end ClubPoints.Text
