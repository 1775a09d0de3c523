import ClubPoints.Binary64.Arithmetic
import ClubPoints.Fault
import ClubPoints.Value.Basic

/-!
# Amounts

Points, goals and counts are whole numbers. Where one was written down as something else, it stays a
real number or a text: numbers come in their order before all texts, and only numbers add up.
-/

namespace ClubPoints

inductive Amount where
  | whole (n : Int)
  | real (x : Binary64)
  | text (s : String)
deriving DecidableEq

namespace Amount

instance : Coe Int Amount := ⟨.whole⟩

instance (n : Nat) : OfNat Amount n := ⟨.whole n⟩

def value : Amount → Value
  | .whole n => .whole n
  | .real x => .real x
  | .text s => .text s

def whole? : Amount → Option Int
  | .whole n => some n
  | _ => none

/-! ## Order -/

def place? : Amount → Option Int
  | .whole n => some (n * unitsPerOne)
  | .real x => x.key?
  | .text _ => none

/-- Numbers by size, then texts. -/
def before (a b : Amount) : Bool :=
  match a, b with
  | .text s, .text t => (compare s t).isLE
  | a, b =>
    match a.place?, b.place? with
    | some m, some n => decide (m ≤ n)
    | some _, none => true
    | none, _ => false

/-! ## Sums and products -/

def real? : Amount → Option Binary64
  | .whole n => Binary64.ofInt? n
  | .real x => some x
  | .text _ => none

/-- A sum is whole if both amounts are. -/
def plus (a b : Amount) : Option Amount :=
  match a, b with
  | .whole m, .whole n => some (.whole (m + n))
  | a, b => do return .real ((← a.real?).plus (← b.real?))

def sum (amounts : List Amount) : Option Amount := amounts.foldlM plus 0

theorem foldlM_plus_whole (ns : List Int) (m : Int) :
    (ns.map whole).foldlM plus (.whole m) = some (.whole (ns.foldl (· + ·) m)) := by
  induction ns generalizing m with
  | nil => rfl
  | cons n rest ih => simp only [List.map_cons, List.foldlM_cons, List.foldl_cons, plus]; exact ih _

theorem sum_whole (ns : List Int) : sum (ns.map whole) = some (.whole (ns.foldl (· + ·) 0)) :=
  foldlM_plus_whole ns 0

def lengthLimit : Nat := 1000000000

/-- An amount so many times; a text is repeated, unless it would grow too long. -/
def times (a : Amount) (n : Int) : Except Fault Amount :=
  match a with
  | .whole m => .ok (.whole (m * n))
  | .real x =>
    match Binary64.ofInt? n with
    | some y => .ok (.real (x.times y))
    | none => .error .wholeTooLarge
  | .text s =>
    if s.length * n.toNat ≤ lengthLimit then .ok (.text (String.join (List.replicate n.toNat s)))
    else .error .wholeTooLarge

end Amount

end ClubPoints
