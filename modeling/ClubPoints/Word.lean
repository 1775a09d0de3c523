/-!
# Words

The whole numbers that a signed word of 64 bits holds.
-/

namespace ClubPoints

def wordLimit : Int := 9223372036854775808

def fitsWord (n : Int) : Bool := decide (-wordLimit ≤ n) && decide (n < wordLimit)

theorem fitsWord_iff {n : Int} : fitsWord n = true ↔ -wordLimit ≤ n ∧ n < wordLimit := by
  simp [fitsWord]

end ClubPoints
