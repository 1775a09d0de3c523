import ClubPoints.Proofs.RoundTrip
import ClubPoints.Proofs.Siblings

/-!
# Counts in notes

Older entries carry their count in their notes only. It is read as it was written
(`Editing.instanceCount_notes`), so a ledger is read back alike whichever of its rows have lost
their count (`Ledger.reconcile_notes`).
-/

namespace ClubPoints

namespace Keyed

variable {α κ : Type} [DecidableEq κ] {key : α → κ} {f : α → α} (hf : ∀ x, key (f x) = key x)
include hf

theorem find?_map (k : κ) (xs : List α) : find? key k (xs.map f) = (find? key k xs).map f := by
  unfold find?
  rw [List.find?_map]
  simp only [Function.comp_def, hf]

theorem place_map (x : α) (xs : List α) : place key (f x) (xs.map f) = (place key x xs).map f := by
  induction xs with
  | nil => rfl
  | cons y rest ih =>
    rw [List.map_cons, place, place, ih, hf, hf]
    by_cases hy : key y = key x
    · rw [if_pos hy, if_pos hy, List.map_cons]
    · rw [if_neg hy, if_neg hy, List.map_cons]

end Keyed

/-! ## Digits -/

namespace Text

theorem digitValue?_of_isDigit {c : Char} (h : c.isDigit = true) :
    digitValue? c = some (c.toNat - '0'.toNat) := by
  have hbounds : 0x30 ≤ c.toNat ∧ c.toNat < 0x30 + 10 := by
    simp only [Char.isDigit, Bool.and_eq_true, decide_eq_true_eq, ge_iff_le,
      UInt32.le_iff_toNat_le] at h
    change 48 ≤ c.toNat ∧ c.toNat ≤ 57 at h
    omega
  have hfirst : zeroDigits.find? (fun first => first ≤ c.toNat && c.toNat < first + 10) =
      some 0x30 := by
    rw [zeroDigits, List.find?_cons_of_pos]
    simpa using hbounds
  rw [digitValue?, hfirst]
  rfl

theorem digitValue?_toDigits {n : Nat} {c : Char} (h : c ∈ Nat.toDigits 10 n) :
    digitValue? c = some (c.toNat - '0'.toNat) :=
  digitValue?_of_isDigit (Nat.isDigit_of_mem_toDigits (by decide) (by decide) h)

theorem filterMap_toDigits (n : Nat) :
    (Nat.toDigits 10 n).filterMap digitValue? =
      (Nat.toDigits 10 n).map fun c => c.toNat - '0'.toNat := by
  rw [List.filterMap_congr fun c hc => digitValue?_toDigits hc]
  exact congrFun List.filterMap_eq_map _

theorem ofDigits_toDigits (n : Nat) :
    ofDigits ((Nat.toDigits 10 n).filterMap digitValue?) = n := by
  rw [filterMap_toDigits, ofDigits, List.foldl_map]
  exact Nat.ofDigitChars_toDigits (by decide) (by decide)

end Text

namespace Editing

/-! ## The count in notes -/

theorem instances?_append {lead : List Char} (h : ∀ c ∈ lead, Text.digitValue? c = none)
    (rest : List Char) : instances? (lead ++ rest) = instances? rest := by
  induction lead with
  | nil => rfl
  | cons c lead ih =>
    obtain ⟨hc, hlead⟩ := List.forall_mem_cons.mp h
    have hhere : instancesHere? (c :: (lead ++ rest)) = none := by
      simp [instancesHere?, hc]
    rw [List.cons_append, instances?, hhere, Option.none_or, ih hlead]

/-- The digits of a number are read up to the blank behind them. -/
theorem instances?_toDigits (n : Nat) :
    instances? (Nat.toDigits 10 n ++ " instances".toList) =
      some ((Nat.toDigits 10 n).filterMap Text.digitValue?) := by
  have hspan : (Nat.toDigits 10 n ++ " instances".toList).takeWhile
      (fun c => (Text.digitValue? c).isSome) = Nat.toDigits 10 n := by
    rw [List.takeWhile_append_of_pos fun c hc => by rw [Text.digitValue?_toDigits hc]; rfl]
    have hblank : " instances".toList.takeWhile (fun c => (Text.digitValue? c).isSome) = [] := by
      decide +kernel
    rw [hblank, List.append_nil]
  have hhere : instancesHere? (Nat.toDigits 10 n ++ " instances".toList) =
      some ((Nat.toDigits 10 n).filterMap Text.digitValue?) := by
    have hsome : (Nat.toDigits 10 n).isEmpty = false :=
      List.isEmpty_eq_false_iff.mpr Nat.toDigits_ne_nil
    have hword : (decide ((" instances".toList.dropWhile Text.isBlank).length <
        " instances".toList.length) && "instances".toList.isPrefixOf
          (" instances".toList.dropWhile Text.isBlank)) = true := by
      decide +kernel
    unfold instancesHere?
    simp only [hspan, List.drop_left]
    rw [if_pos]
    rw [hsome, Bool.not_false, Bool.true_and]
    exact hword
  obtain ⟨c, rest, hcons⟩ := List.exists_cons_of_ne_nil
    (List.append_ne_nil_of_left_ne_nil (Nat.toDigits_ne_nil (n := n) (b := 10))
      " instances".toList)
  rw [hcons] at hhere ⊢
  rw [instances?, hhere]
  rfl

theorem toList_notes {n : Int} (h : 0 ≤ n) :
    (Assignment.notes n).toList =
      "Manual assignment: ".toList ++ (Nat.toDigits 10 n.natAbs ++ " instances".toList) := by
  have hrepr : n.repr = n.natAbs.repr := by
    rw [Int.repr_eq_if, if_pos h]
    congr 1
    omega
  change ("Manual assignment: " ++ n.repr ++ " instances").toList = _
  rw [String.toList_append, String.toList_append, hrepr, Nat.toList_repr, List.append_assoc]

theorem instanceCount_notes {n : Int} (hpos : 1 ≤ n)
    (hlength : n.natAbs.repr.length ≤ Numeral.digitLimit) :
    instanceCount (some (Assignment.notes n)) = .ok n := by
  have hread : instances? (Assignment.notes n).toList =
      some ((Nat.toDigits 10 n.natAbs).filterMap Text.digitValue?) := by
    have hlead : ∀ c ∈ "Manual assignment: ".toList, Text.digitValue? c = none := by
      have hall : "Manual assignment: ".toList.all
          (fun c => (Text.digitValue? c).isNone) = true := by decide +kernel
      simpa only [List.all_eq_true, Option.isNone_iff_eq_none] using hall
    rw [toList_notes (by omega), instances?_append hlead, instances?_toDigits]
  have hshort : ¬ Numeral.digitLimit < ((Nat.toDigits 10 n.natAbs).filterMap
      Text.digitValue?).length := by
    rw [Text.filterMap_toDigits, List.length_map, ← Nat.toList_repr, String.length_toList]
    exact not_lt.mpr hlength
  rw [instanceCount, Option.bind_some, hread]
  simp only [if_neg hshort, Text.ofDigits_toDigits, Int.natAbs_of_nonneg (by omega : 0 ≤ n)]

/-! ## Entries by what they count -/

/-- An entry by hand with the count that is read of it and without notes, and one by rule with
neither. -/
def tallied (e : StoredEntry) : StoredEntry :=
  { e with count := if e.isManual then (entryCount e).toOption else none, notes := none }

theorem entryCount_tallied {e : StoredEntry} {n : Int} (hmanual : e.isManual = true)
    (h : entryCount e = .ok n) : entryCount (tallied e) = .ok n := by
  have hcount : (tallied e).count = some n := by
    rw [tallied, if_pos hmanual, toOption_eq_some.mpr h]
  rw [entryCount, hcount]

theorem contest_map {f : StoredEntry → StoredEntry} (hf : ∀ e, pair (f e) = pair e)
    (winners : List Counted) (x : Counted) :
    contest (winners.map (Prod.map f id)) (Prod.map f id x) =
      (contest winners x).map (Prod.map f id) := by
  have hkey (w : Counted) : pair (Prod.map f id w).1 = pair w.1 := hf w.1
  unfold contest
  rw [Keyed.find?_map hkey, hkey]
  cases Keyed.find? (fun w : Counted => pair w.1) (pair x.1) winners with
  | none =>
    change _ = (winners ++ [x]).map (Prod.map f id)
    rw [List.map_append]
    rfl
  | some w =>
    rw [Option.map_some, Keyed.place_map hkey]
    exact (apply_ite (List.map (Prod.map f id)) ..).symm

theorem foldl_contest_map {f : StoredEntry → StoredEntry} (hf : ∀ e, pair (f e) = pair e)
    (counted winners : List Counted) :
    (counted.map (Prod.map f id)).foldl contest (winners.map (Prod.map f id)) =
      (counted.foldl contest winners).map (Prod.map f id) := by
  induction counted generalizing winners with
  | nil => rfl
  | cons x rest ih => rw [List.map_cons, List.foldl_cons, contest_map hf, ih, List.foldl_cons]

theorem reconcile_tallied {entries : List StoredEntry} {items : List EditableAssignment}
    (h : reconcile entries = .ok items) : reconcile (entries.map tallied) = .ok items := by
  obtain ⟨counted, hcounted, rfl⟩ := reconcile_eq_ok.mp h
  refine reconcile_eq_ok.mpr ⟨counted.map (Prod.map tallied id), ?_, ?_⟩
  · have hsorted : ((entries.map tallied).filter StoredEntry.isManual).mergeSort before =
        ((entries.filter StoredEntry.isManual).mergeSort before).map tallied := by
      rw [List.filter_map]
      exact (List.map_mergeSort (f := tallied) fun a _ b _ => rfl).symm
    have hmanual : ∀ e ∈ (entries.filter StoredEntry.isManual).mergeSort before,
        e.isManual = true := fun e he => (List.mem_filter.mp (List.mem_mergeSort.mp he)).2
    rw [hsorted, List.forall₂_map_left_iff, List.forall₂_map_right_iff]
    refine ((List.forall₂_and_left _ _).mpr ⟨hmanual, hcounted⟩).imp fun e x => ?_
    rintro ⟨hmanual, n, hn, rfl⟩
    exact ⟨n, entryCount_tallied hmanual hn, rfl⟩
  · have hfold := foldl_contest_map (f := tallied) (fun _ => rfl) counted []
    rw [List.map_nil] at hfold
    rw [hfold, List.map_map]
    rfl

theorem reconcile_of_tallied {entries others : List StoredEntry} {items : List EditableAssignment}
    (h : reconcile entries = .ok items) (hsame : others.map tallied = entries.map tallied)
    (hread : ∀ e ∈ others, e.isManual = true → ∃ n, entryCount e = .ok n) :
    reconcile others = .ok items := by
  obtain ⟨items', hitems'⟩ := exists_reconcile_iff.mpr hread
  have hboth := reconcile_tallied hitems'
  rw [hsame, reconcile_tallied h] at hboth
  rw [hitems', hboth]

end Editing

/-! ## The entries of a ledger -/

def LedgerRow.storedByNotes (row : LedgerRow) : StoredEntry := { row.stored with count := none }

namespace Ledger

variable {rules : List Rule} {profiles : List Profile} {assignments : List Assignment}
  {r : Registry} {game : MatchFacts} {players : List PlayerFacts} {withAutomatic : Bool}
  {rows : List LedgerRow}

section

variable (h : assemble rules profiles assignments r game players withAutomatic = .ok rows)
  (hdigits : ∀ a ∈ assignments, a.count.natAbs.repr.length ≤ Numeral.digitLimit)
include h hdigits

theorem entryCount_storedByNotes {row : LedgerRow} (hrow : row ∈ rows)
    (hmanual : row.isManual = true) : Editing.entryCount row.storedByNotes = .ok row.count := by
  obtain ⟨a, ha, hcount, rule, -, p, -, -, rfl⟩ :=
    mem_manualRows.mp ((byHand_iff h).mp ⟨hrow, hmanual⟩)
  exact Editing.instanceCount_notes hcount (hdigits a ha)

theorem tallied_storedByNotes {row : LedgerRow} (hrow : row ∈ rows) :
    Editing.tallied row.storedByNotes = Editing.tallied row.stored := by
  by_cases hmanual : row.isManual = true
  · have hcounts : Editing.entryCount row.storedByNotes = Editing.entryCount row.stored :=
      entryCount_storedByNotes h hdigits hrow hmanual
    simp only [Editing.tallied, hcounts]
    rfl
  · have hcounts (x : StoredEntry) (hx : x.isManual = row.isManual) :
        (if x.isManual then (Editing.entryCount x).toOption else none) = none := by
      rw [hx, if_neg hmanual]
    simp only [Editing.tallied, hcounts row.storedByNotes rfl, hcounts row.stored rfl]
    rfl

end

/-- Notes tell every count that they are written with, so the entries of a ledger are reconciled
alike whichever of them have their count in the notes only. -/
theorem reconcile_notes
    (h : assemble rules profiles assignments r game players withAutomatic = .ok rows)
    (hdigits : ∀ a ∈ assignments, a.count.natAbs.repr.length ≤ Numeral.digitLimit) :
    (∀ n : Int, 1 ≤ n → n.natAbs.repr.length ≤ Numeral.digitLimit →
      Editing.instanceCount (some (Assignment.notes n)) = .ok n) ∧
    ∃ items, Editing.reconcile (rows.map LedgerRow.stored) = .ok items ∧
      ∀ entries, List.Forall₂ (fun row e => e = row.stored ∨ e = row.storedByNotes) rows entries →
        Editing.reconcile entries = .ok items := by
  have hread : ∀ e ∈ rows.map LedgerRow.stored, e.isManual = true →
      ∃ n, Editing.entryCount e = .ok n := by
    intro e he _
    obtain ⟨row, -, rfl⟩ := List.mem_map.mp he
    exact ⟨row.count, rfl⟩
  obtain ⟨items, hitems⟩ := Editing.exists_reconcile_iff.mpr hread
  refine ⟨fun n => Editing.instanceCount_notes, items, hitems, fun entries hentries => ?_⟩
  have hrows := (List.forall₂_and_left (p := (· ∈ rows)) _ _).mpr ⟨fun _ => id, hentries⟩
  apply Editing.reconcile_of_tallied hitems
  · rw [List.map_map]
    refine map_eq_of_forall₂ hrows fun row e => ?_
    rintro ⟨hrow, rfl | rfl⟩
    · rfl
    · exact tallied_storedByNotes h hdigits hrow
  · intro e he hmanual
    obtain ⟨row, -, hrow, rfl | rfl⟩ := exists_of_forall₂ hrows e he
    · exact ⟨row.count, rfl⟩
    · exact ⟨row.count, entryCount_storedByNotes h hdigits hrow hmanual⟩

theorem reconcile_notes_winAndGoals :
    (∀ a ∈ [(⟨4, 8, 2⟩ : Assignment)], a.count.natAbs.repr.length ≤ Numeral.digitLimit) ∧
      ∃ rows, assemble winAndGoals [forTheTeam, forTheClub] [⟨4, 8, 2⟩] {}
          { goalsFor := 3, goalsAgainst := 1 } forwardAndDefender true = .ok rows ∧
        ∃ items, Editing.reconcile (rows.map LedgerRow.storedByNotes) = .ok items ∧
          ∃ i ∈ items, i.assignment = ⟨4, 8, 2⟩ := by
  have hdigits : ∀ a ∈ [(⟨4, 8, 2⟩ : Assignment)],
      a.count.natAbs.repr.length ≤ Numeral.digitLimit := by decide +kernel
  obtain ⟨rows, h⟩ := exists_assemble_winAndGoals [⟨4, 8, 2⟩]
  obtain ⟨-, items, hitems, hall⟩ := reconcile_notes h hdigits
  have hnotes : List.Forall₂ (fun row e => e = row.stored ∨ e = row.storedByNotes) rows
      (rows.map LedgerRow.storedByNotes) :=
    List.forall₂_map_right_iff.mpr (List.forall₂_same.mpr fun _ _ => .inr rfl)
  refine ⟨hdigits, rows, h, items, hall _ hnotes, ?_⟩
  have hitems' : Editing.reconcile ((rows.map LedgerRow.stored).filter StoredEntry.isManual) =
      .ok items := by
    rw [← hitems, Editing.reconcile, Editing.reconcile, List.filter_filter]
    simp only [Bool.and_self]
  have hback : ReadBack [forTheTeam, forTheClub] [⟨4, 8, 2⟩] rows items := by
    refine readBack h (by simp [rule?, winAndGoals, Keyed.find?]) (by decide) (fun x => ?_) hitems'
    rw [List.mem_filter, List.mem_map]
    constructor
    · rintro ⟨⟨row, hrow, rfl⟩, hmanual⟩
      exact ⟨row, hrow, hmanual, rfl⟩
    · rintro ⟨row, hrow, hmanual, rfl⟩
      exact ⟨⟨row, hrow, rfl⟩, hmanual⟩
  exact hback.all _ (by simp) (by decide)

end Ledger

end ClubPoints
