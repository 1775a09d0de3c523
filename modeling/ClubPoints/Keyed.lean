/-!
# Lists with one entry per key

Placing entries one after another keeps, for each key, the last entry at the place of the first.
-/

namespace ClubPoints.Keyed

variable {α κ : Type} [DecidableEq κ]

/-- Puts an entry into a list, over the entry with the same key. -/
def place (key : α → κ) (x : α) : List α → List α
  | [] => [x]
  | y :: rest => if key y = key x then x :: rest else y :: place key x rest

def collect (key : α → κ) (entries : List α) : List α :=
  entries.foldl (fun kept x => place key x kept) []

def find? (key : α → κ) (k : κ) (entries : List α) : Option α :=
  entries.find? fun x => decide (key x = k)

theorem find?_eq_none {key : α → κ} {k : κ} {entries : List α} :
    find? key k entries = none ↔ ∀ x ∈ entries, key x ≠ k := by
  simp [find?]

theorem find?_eq_some {key : α → κ} {k : κ} {entries : List α} {x : α}
    (h : find? key k entries = some x) : x ∈ entries ∧ key x = k :=
  ⟨List.mem_of_find?_eq_some h, by simpa using List.find?_some h⟩

theorem find?_place (key : α → κ) (x : α) (k : κ) (entries : List α) :
    find? key k (place key x entries) = if key x = k then some x else find? key k entries := by
  unfold find?
  induction entries with
  | nil => by_cases h : key x = k <;> simp [place, h]
  | cons y rest ih =>
    by_cases hy : key y = key x
    · rw [place, if_pos hy]
      by_cases h : key x = k <;> simp [hy, h]
    · rw [place, if_neg hy, List.find?_cons, ih]
      by_cases hk : key y = k
      · have h : ¬ key x = k := fun e => hy (hk.trans e.symm)
        simp [hk, h]
      · simp [hk]

theorem find?_collect (key : α → κ) (k : κ) (entries : List α) :
    find? key k (collect key entries) = find? key k entries.reverse := by
  suffices h : ∀ kept, find? key k (entries.foldl (fun kept x => place key x kept) kept) =
      (find? key k entries.reverse).or (find? key k kept) by
    have := h []
    simpa [collect, find?] using this
  induction entries with
  | nil => intro kept; simp [find?]
  | cons x rest ih =>
    intro kept
    rw [List.foldl_cons, ih, find?_place]
    by_cases h : key x = k
    · simp [find?, List.find?_append, h]
    · simp [find?, List.find?_append, h]

end ClubPoints.Keyed
