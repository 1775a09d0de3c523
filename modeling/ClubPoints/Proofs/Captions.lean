import ClubPoints.Proofs.Configuration
import Mathlib.Algebra.Order.Group.Multiset
import Mathlib.Data.List.Chain
import Mathlib.Tactic.Abel

/-!
# What rows go by

Clubs, teams, players and profiles go by a name, matches by an opponent and variables by a label.
The length of such a text is checked as it is given, and it is stored squeezed, which keeps all its
letters (`letters_squeeze`) but may make it too short (`captions_bounded`).
-/

namespace ClubPoints

/-! ## Squeezed texts -/

namespace Text

def letters (chars : List Char) : List Char := chars.filter fun c => !isBlank c

structure IsSqueezed (chars : List Char) : Prop where
  first : ∀ c ∈ chars.head?, isBlank c = false
  last : ∀ c ∈ chars.getLast?, isBlank c = false
  single : chars.IsChain fun c d => isBlank c = false ∨ isBlank d = false
  plain : ∀ c ∈ chars, isBlank c = true → c = ' '

def IsWord (chars : List Char) : Prop := chars ≠ [] ∧ ∀ c ∈ chars, isBlank c = false

theorem IsWord.letters_eq {w : List Char} (h : IsWord w) : letters w = w :=
  List.filter_eq_self.mpr fun c hc => by rw [h.2 c hc]; rfl

theorem IsWord.isSqueezed {w : List Char} (h : IsWord w) : IsSqueezed w where
  first c hc := h.2 c (List.mem_of_mem_head? hc)
  last c hc := h.2 c (List.mem_of_getLast? hc)
  single := by
    have hpairs : w.Pairwise fun c d => isBlank c = false ∨ isBlank d = false :=
      List.pairwise_of_forall_mem_list fun c hc _ _ => .inl (h.2 c hc)
    exact hpairs.isChain
  plain c hc hblank := absurd (hblank.symm.trans (h.2 c hc)) nofun

theorem IsSqueezed.cons_word {w chars : List Char} (hw : IsWord w) (h : IsSqueezed chars)
    (hne : chars ≠ []) : IsSqueezed (w ++ ' ' :: chars) where
  first c hc := by
    rw [List.head?_append_of_ne_nil _ hw.1] at hc
    exact hw.isSqueezed.first c hc
  last c hc := by
    rw [List.getLast?_append_of_ne_nil _ (List.cons_ne_nil _ _), List.getLast?_cons_of_ne_nil hne]
      at hc
    exact h.last c hc
  single := by
    rw [List.isChain_append, List.isChain_cons]
    refine ⟨hw.isSqueezed.single, ⟨fun c hc => .inr (h.first c hc), h.single⟩, fun c hc _ _ => ?_⟩
    exact .inl (hw.isSqueezed.last c hc)
  plain c hc hblank := by
    rcases List.mem_append.mp hc with hc | hc
    · exact hw.isSqueezed.plain c hc hblank
    · rcases List.mem_cons.mp hc with rfl | hc
      · rfl
      · exact h.plain c hc hblank

def joined (ws : List (List Char)) : List Char := [' '].intercalate ws

theorem joined_cons {w v : List Char} {ws : List (List Char)} :
    joined (w :: v :: ws) = w ++ ' ' :: joined (v :: ws) := by
  simp [joined, List.intercalate_cons_cons]

theorem joined_ne_nil {w : List Char} {ws : List (List Char)} (hw : IsWord w) :
    joined (w :: ws) ≠ [] := by
  cases ws with
  | nil => simpa [joined] using hw.1
  | cons v ws => simp [joined_cons]

theorem isSqueezed_joined {ws : List (List Char)} (h : ∀ w ∈ ws, IsWord w) :
    IsSqueezed (joined ws) := by
  induction ws with
  | nil => exact ⟨nofun, nofun, .nil, nofun⟩
  | cons w ws ih =>
    obtain ⟨hw, hws⟩ := List.forall_mem_cons.mp h
    cases ws with
    | nil => simpa [joined] using hw.isSqueezed
    | cons v ws =>
      rw [joined_cons]
      exact (ih hws).cons_word hw (joined_ne_nil (hws v List.mem_cons_self))

theorem letters_joined {ws : List (List Char)} (h : ∀ w ∈ ws, IsWord w) :
    letters (joined ws) = ws.flatten := by
  induction ws with
  | nil => rfl
  | cons w ws ih =>
    obtain ⟨hw, hws⟩ := List.forall_mem_cons.mp h
    cases ws with
    | nil => simpa [joined] using hw.letters_eq
    | cons v ws =>
      have hrest := ih hws
      have hspace : isBlank ' ' = true := rfl
      unfold letters at hrest ⊢
      rw [joined_cons, List.filter_append, List.filter_cons_of_neg (by simp [hspace]), hrest]
      exact congrArg (· ++ _) hw.letters_eq

theorem length_joined_cons_le (w : List Char) (ws : List (List Char)) :
    (joined (w :: ws)).length ≤ w.length + 1 + (joined ws).length := by
  cases ws with
  | nil => simp [joined]
  | cons v ws =>
    rw [joined_cons, List.length_append, List.length_cons]
    omega

/-! Reading goes through a text with the word that was begun. -/

theorem isWord_of_mem_wordsFrom {word chars : List Char} (h : ∀ c ∈ word, isBlank c = false) :
    ∀ w ∈ wordsFrom word chars, IsWord w := by
  have hword (hne : word.isEmpty = false) : IsWord word.reverse :=
    ⟨by simpa using hne, fun c hc => h c (List.mem_reverse.mp hc)⟩
  induction chars generalizing word with
  | nil =>
    unfold wordsFrom
    cases hempty : word.isEmpty with
    | true => simp
    | false => simpa using hword hempty
  | cons c rest ih =>
    have hrest : ∀ w ∈ wordsFrom [] rest, IsWord w := ih (by simp) (by simp)
    unfold wordsFrom
    by_cases hblank : isBlank c = true
    · cases hempty : word.isEmpty with
      | true => simpa [hblank] using hrest
      | false => simpa [hblank] using ⟨hword hempty, hrest⟩
    · rw [if_neg hblank]
      have hmore : ∀ d ∈ c :: word, isBlank d = false :=
        List.forall_mem_cons.mpr ⟨eq_false_of_ne_true hblank, h⟩
      exact ih hmore fun _ => ⟨by simp, fun d hd => hmore d (List.mem_reverse.mp hd)⟩

theorem flatten_wordsFrom (word chars : List Char) :
    (wordsFrom word chars).flatten = word.reverse ++ letters chars := by
  induction chars generalizing word with
  | nil => cases word <;> simp [wordsFrom, letters]
  | cons c rest ih =>
    unfold letters at ih ⊢
    by_cases hblank : isBlank c = true
    · cases word <;> simp [wordsFrom, hblank, ih]
    · simp [wordsFrom, hblank, ih]

theorem length_joined_wordsFrom_le (word chars : List Char) :
    (joined (wordsFrom word chars)).length ≤ word.length + chars.length := by
  induction chars generalizing word with
  | nil => cases word <;> simp [wordsFrom, joined]
  | cons c rest ih =>
    unfold wordsFrom
    by_cases hblank : isBlank c = true
    · have hrest := ih []
      have hcons := length_joined_cons_le word.reverse (wordsFrom [] rest)
      rw [List.length_reverse] at hcons
      simp only [List.length_nil, Nat.zero_add] at hrest
      rw [if_pos hblank, List.length_cons]
      split <;> omega
    · have hrest := ih (c :: word)
      rw [List.length_cons] at hrest ⊢
      rw [if_neg hblank]
      omega

theorem toList_squeeze (s : String) : (squeeze s).toList = joined (wordsFrom [] s.toList) := by
  rw [squeeze, String.toList_intercalate, words, List.map_map]
  have hid : String.toList ∘ String.ofList = id := by
    funext chars
    simp
  rw [hid, List.map_id]
  rfl

theorem isSqueezed_squeeze (s : String) : IsSqueezed (squeeze s).toList := by
  rw [toList_squeeze]
  exact isSqueezed_joined (isWord_of_mem_wordsFrom (by simp))

theorem letters_squeeze (s : String) : letters (squeeze s).toList = letters s.toList := by
  rw [toList_squeeze, letters_joined (isWord_of_mem_wordsFrom (by simp)), flatten_wordsFrom]
  rfl

theorem length_squeeze_le (s : String) : (squeeze s).length ≤ s.length := by
  have h := length_joined_wordsFrom_le [] s.toList
  rwa [← toList_squeeze, List.length_nil, Nat.zero_add, String.length_toList,
    String.length_toList] at h

/-- A squeezed text is as long as one or two characters if it has as many letters: its first and
its last character are letters. -/
theorem IsSqueezed.le_length_iff {chars : List Char} (h : IsSqueezed chars) {n : Nat} (hn : n ≤ 2) :
    n ≤ chars.length ↔ n ≤ (letters chars).length := by
  refine ⟨fun hle => ?_, fun hle => hle.trans (List.length_filter_le ..)⟩
  unfold letters
  cases chars with
  | nil => simpa using hle
  | cons c rest =>
    rw [List.filter_cons_of_pos (by rw [h.first c rfl]; rfl), List.length_cons]
    rcases List.eq_nil_or_concat' rest with rfl | ⟨middle, d, rfl⟩
    · simpa using hle
    · have hd : isBlank d = false := h.last d (List.getLast?_concat (l := c :: middle))
      rw [List.filter_append, List.length_append, List.filter_cons_of_pos (by rw [hd]; rfl),
        List.length_cons]
      omega

theorem le_length_squeeze_iff (s : String) {n : Nat} (hn : n ≤ 2) :
    n ≤ (squeeze s).length ↔ n ≤ (letters s.toList).length := by
  rw [← String.length_toList, (isSqueezed_squeeze s).le_length_iff hn, letters_squeeze]

end Text

open Form Store

/-! ## Captions -/

/-- A text that a row goes by. Its form asks for a least number of characters, and the service may
check that it is not blank. -/
structure Caption where
  least : Nat
  isChecked : Bool
  text : String
deriving DecidableEq

namespace Caption

def squeezed (c : Caption) : Caption := { c with text := Text.squeeze c.text }

/-- The bounds that the form sets hold of the text, and it is squeezed. -/
structure InBounds (c : Caption) : Prop where
  least : c.least ≤ c.text.length
  most : c.text.length ≤ 100
  squeezed : Text.IsSqueezed c.text.toList

/-- The text was found to be in bounds before it was squeezed, and not to be blank if that is
checked. -/
structure Passes (c : Caption) : Prop where
  least : c.least ≤ c.text.length
  most : c.text.length ≤ 100
  small : c.least ≤ 2
  checked : c.isChecked = true → Text.squeeze c.text ≠ ""

def HasLetters (c : Caption) : Prop := c.least ≤ (Text.letters c.text.toList).length

theorem Passes.inBounds_squeezed_iff {c : Caption} (h : c.Passes) :
    c.squeezed.InBounds ↔ c.HasLetters := by
  rw [HasLetters, ← Text.le_length_squeeze_iff c.text h.small]
  constructor
  · exact InBounds.least
  · exact fun hle => ⟨hle, (Text.length_squeeze_le _).trans h.most, Text.isSqueezed_squeeze _⟩

end Caption

def Action.caption? : Action → Option Caption
  | .createClub form => some { least := 2, isChecked := true, text := form.name }
  | .createTeam form => some { least := 2, isChecked := true, text := form.name }
  | .createPlayer form => some { least := 1, isChecked := true, text := form.name }
  | .createMatch form => some { least := 1, isChecked := true, text := form.opponent }
  | .createProfile form => some { least := 1, isChecked := false, text := form.name }
  | .createVariable form => some { least := 1, isChecked := false, text := form.label }
  | _ => none

theorem Form.textBetween_eq_valid {least most : Nat} {v : Value} {s : String}
    (h : textBetween least most v = .valid s) : least ≤ s.length ∧ s.length ≤ most := by
  obtain ⟨x, -, h⟩ := Checked.andThen_eq_valid.mp h
  split at h
  · cases h
  · split at h
    · cases h
    · cases h
      omega

open Form.Checked in
theorem Action.caption_bounds {a : Action} {c : Caption} (ha : a.IsSubmitted)
    (hc : a.caption? = some c) : c.least ≤ c.text.length ∧ c.text.length ≤ 100 := by
  cases a with
  | createClub form =>
    cases hc
    obtain ⟨v, h⟩ := ha
    obtain ⟨fields, h⟩ := object_eq_valid h
    obtain ⟨name, hname, rfl⟩ := fmap_eq_valid.mp h
    obtain ⟨v, hv⟩ := required_eq_valid hname
    exact textBetween_eq_valid hv
  | createTeam form =>
    cases hc
    obtain ⟨v, h⟩ := ha
    obtain ⟨fields, h⟩ := object_eq_valid h
    simp only [app_eq_valid, fmap_eq_valid] at h
    obtain ⟨_, _, ⟨name, hname, rfl⟩, -, rfl⟩ := h
    obtain ⟨v, hv⟩ := required_eq_valid hname
    exact textBetween_eq_valid hv
  | createPlayer form =>
    cases hc
    obtain ⟨v, h⟩ := ha
    obtain ⟨fields, h⟩ := object_eq_valid h
    simp only [app_eq_valid, fmap_eq_valid] at h
    obtain ⟨_, _, ⟨_, _, ⟨name, hname, rfl⟩, -, rfl⟩, -, rfl⟩ := h
    obtain ⟨v, hv⟩ := required_eq_valid hname
    exact textBetween_eq_valid hv
  | createMatch form =>
    cases hc
    obtain ⟨v, h⟩ := ha
    obtain ⟨fields, h⟩ := object_eq_valid h
    simp only [app_eq_valid, fmap_eq_valid] at h
    obtain ⟨_, opponent, ⟨_, -, rfl⟩, hopponent, rfl⟩ := h
    obtain ⟨v, hv⟩ := required_eq_valid hopponent
    exact textBetween_eq_valid hv
  | createProfile form =>
    cases hc
    obtain ⟨v, h⟩ := ha
    obtain ⟨fields, h⟩ := object_eq_valid h
    simp only [app_eq_valid, fmap_eq_valid] at h
    obtain ⟨_, _, ⟨_, _, ⟨_, _, ⟨_, name, ⟨_, -, rfl⟩, hname, rfl⟩, -, rfl⟩, -, rfl⟩, -, rfl⟩ := h
    obtain ⟨v, hv⟩ := required_eq_valid hname
    exact textBetween_eq_valid hv
  | createVariable form =>
    cases hc
    obtain ⟨v, h⟩ := ha
    obtain ⟨fields, h⟩ := object_eq_valid h
    simp only [app_eq_valid, fmap_eq_valid] at h
    obtain ⟨_, _, ⟨_, _, ⟨_, _, ⟨_, _, ⟨_, label, ⟨_, _, ⟨_, -, rfl⟩, -, rfl⟩, hlabel, rfl⟩, -, rfl⟩,
      -, rfl⟩, -, rfl⟩, -, rfl⟩ := h
    obtain ⟨v, hv⟩ := required_eq_valid hlabel
    exact textBetween_eq_valid hv
  | _ => cases hc

theorem Action.caption_small {a : Action} {c : Caption} (hc : a.caption? = some c) :
    c.least ≤ 2 := by
  cases a <;> cases hc <;> simp

namespace Store

variable {s t : Store}

def captions (s : Store) : Multiset Caption :=
  (s.clubs.map fun r => { least := 2, isChecked := true, text := r.name : Caption }) +
    (s.teams.map fun r => { least := 2, isChecked := true, text := r.name : Caption }) +
    (s.players.map fun r => { least := 1, isChecked := true, text := r.name : Caption }) +
    (s.games.map fun r => { least := 1, isChecked := true, text := r.opponent : Caption }) +
    (s.profiles.map fun r => { least := 1, isChecked := false, text := r.name : Caption }) +
    (s.ownVariables.map fun r => { least := 1, isChecked := false, text := r.label : Caption })

class CaptionedTable (R : Type) [Table R] extends LawfulTable R where
  caption : R → Caption
  captions_eq (s : Store) :
    s.captions = ((Table.rows s : List R).map caption : List Caption) +
      (Table.setRows s ([] : List R)).captions
  caption_kept (r : R) : caption (Table.kept r) = caption r
  caption_setId (r : R) (n : Int) : caption (Table.setId r n) = caption r

instance : CaptionedTable ClubRecord where
  caption r := { least := 2, isChecked := true, text := r.name }
  captions_eq s := by
    simp only [captions, Table.setRows, Table.rows, List.map_nil, Multiset.coe_nil]
    abel
  caption_kept _ := rfl
  caption_setId _ _ := rfl

instance : CaptionedTable TeamRecord where
  caption r := { least := 2, isChecked := true, text := r.name }
  captions_eq s := by
    simp only [captions, Table.setRows, Table.rows, List.map_nil, Multiset.coe_nil]
    abel
  caption_kept _ := rfl
  caption_setId _ _ := rfl

instance : CaptionedTable PlayerRecord where
  caption r := { least := 1, isChecked := true, text := r.name }
  captions_eq s := by
    simp only [captions, Table.setRows, Table.rows, List.map_nil, Multiset.coe_nil]
    abel
  caption_kept _ := rfl
  caption_setId _ _ := rfl

instance : CaptionedTable MatchRecord where
  caption r := { least := 1, isChecked := true, text := r.opponent }
  captions_eq s := by
    simp only [captions, Table.setRows, Table.rows, List.map_nil, Multiset.coe_nil]
    abel
  caption_kept _ := rfl
  caption_setId _ _ := rfl

instance : CaptionedTable ProfileRecord where
  caption r := { least := 1, isChecked := false, text := r.name }
  captions_eq s := by
    simp only [captions, Table.setRows, Table.rows, List.map_nil, Multiset.coe_nil]
    abel
  caption_kept _ := rfl
  caption_setId _ _ := rfl

instance : CaptionedTable VariableRecord where
  caption r := { least := 1, isChecked := false, text := r.label }
  captions_eq s := by
    simp only [captions, Table.setRows, Table.rows, List.map_nil, Multiset.coe_nil]
    abel
  caption_kept _ := rfl
  caption_setId _ _ := rfl

section
variable {R : Type} [Table R]

theorem perm_cons_others {xs : List R} {old : R} (hn : (xs.map Table.id).Nodup) (hold : old ∈ xs) :
    xs.Perm (old :: xs.filter fun x => Table.id x != Table.id old) := by
  have hxs : xs.Nodup := hn.of_map
  refine (List.perm_ext_iff_of_nodup hxs (List.nodup_cons.mpr ⟨by simp, hxs.filter _⟩)).mpr
    fun x => ?_
  rw [List.mem_cons, List.mem_filter, bne_iff_ne]
  constructor
  · intro hx
    by_cases hid : Table.id x = Table.id old
    · exact .inl (List.inj_on_of_nodup_map hn hx hold hid)
    · exact .inr ⟨hx, hid⟩
  · rintro (rfl | ⟨hx, -⟩)
    · exact hold
    · exact hx

variable [CaptionedTable R]

open CaptionedTable

theorem captions_setRows (s : Store) (l : List R) :
    (Table.setRows s l).captions =
      (l.map caption : List Caption) + (Table.setRows s ([] : List R)).captions := by
  rw [captions_eq (R := R) (Table.setRows s l), LawfulTable.rows_setRows,
    LawfulTable.setRows_setRows]

theorem captions_inserted {r : R} (hi : Inserted s r t) :
    t.captions = caption r ::ₘ s.captions := by
  have hrows : ((placed (Table.rows s) r).map caption).Perm
      (caption r :: (Table.rows s : List R).map caption) := by
    rw [← caption_kept r]
    exact (perm_placed _ r).map caption
  rw [hi.store, captions_setRows, captions_eq (R := R) s, Multiset.coe_eq_coe.mpr hrows,
    ← Multiset.cons_coe, Multiset.cons_add]

theorem captions_replaced {r old : R} (hn : ((Table.rows s : List R).map Table.id).Nodup)
    (hold : old ∈ (Table.rows s : List R)) (hid : Table.id old = Table.id r)
    (hsame : caption r = caption old)
    (hrows : (Table.rows t : List R) =
      placed ((Table.rows s).filter fun x => Table.id x != Table.id r) r)
    (hothers : (Table.setRows t ([] : List R)).captions =
      (Table.setRows s ([] : List R)).captions) : t.captions = s.captions := by
  have hperm := (perm_cons_others hn hold).map caption
  rw [hid, List.map_cons, ← hsame, ← caption_kept r] at hperm
  rw [captions_eq (R := R) t, captions_eq (R := R) s, hothers, hrows]
  exact congrArg (· + _) (Multiset.coe_eq_coe.mpr (((perm_placed _ r).map caption).trans hperm.symm))

theorem captions_updated {r old : R} (hn : ((Table.rows s : List R).map Table.id).Nodup)
    (hold : old ∈ (Table.rows s : List R)) (hid : Table.id old = Table.id r)
    (hsame : caption r = caption old) (hu : s.update r = .ok t) : t.captions = s.captions := by
  obtain ⟨-, -, rfl⟩ := update_eq_ok.mp hu
  exact captions_replaced hn hold hid hsame (LawfulTable.rows_setRows ..)
    (congrArg captions (LawfulTable.setRows_setRows ..))

theorem captions_filtered (p : R → Bool) :
    (Table.setRows s ((Table.rows s : List R).filter p)).captions ≤ s.captions := by
  have hsub : (((Table.rows s : List R).filter p).map caption).Sublist
      ((Table.rows s : List R).map caption) := List.filter_sublist.map _
  rw [captions_setRows, captions_eq (R := R) s]
  exact add_le_add_left (Multiset.coe_le.mpr hsub.subperm) _

end

theorem captions_beforeProfile (s : Store) (form : ProfileForm) :
    (s.beforeProfile form).captions = s.captions := by
  unfold beforeProfile
  split
  · have hname : ∀ p : ProfileRecord, (if p.clubId = form.clubId then
        { p with isClubDefault := false } else p).name = p.name := fun p => by split <;> rfl
    simp only [clearDefault, captions, List.map_map, Function.comp_def, hname]
  · rfl

/-- A creation brings one caption, squeezed and checked as it has to be. All else brings none. -/
theorem captions_of_turns {policy : Policy} {a : Action} (hn : s.Numbered)
    (ht : a.Turns policy s t) :
    t.captions ≤ s.captions ∨ ∃ c, a.caption? = some c ∧
      (c.isChecked = true → Text.squeeze c.text ≠ "") ∧ t.captions = c.squeezed ::ₘ s.captions := by
  cases ht with
  | nothing => exact .inl le_rfl
  | createClub ht =>
    unfold createClub at ht
    obtain ⟨hblank, ht⟩ := leads_unless.mp ht
    obtain ⟨-, ht⟩ := leads_unless.mp ht
    exact .inr ⟨_, rfl, fun _ => hblank, captions_inserted (leads_addition.mp ht)⟩
  | createTeam ht =>
    unfold createTeam at ht
    obtain ⟨hblank, ht⟩ := leads_unless.mp ht
    obtain ⟨_, -, ht⟩ := leads_get ht
    obtain ⟨-, ht⟩ := leads_unless.mp ht
    exact .inr ⟨_, rfl, fun _ => hblank, captions_inserted (leads_addition.mp ht)⟩
  | @setTeamProfile _ form _ ht =>
    obtain ⟨team, hteam, -, hu⟩ := setTeamProfile_leads ht
    exact .inl (captions_updated (r := { team with defaultProfileId := form.profileId }) hn.teams
      (find?_eq_some hteam).1 rfl rfl hu).le
  | createPlayer ht =>
    unfold createPlayer at ht
    obtain ⟨hblank, ht⟩ := leads_unless.mp ht
    obtain ⟨_, -, ht⟩ := leads_get ht
    obtain ⟨-, ht⟩ := leads_unless.mp ht
    exact .inr ⟨_, rfl, fun _ => hblank, captions_inserted (leads_addition.mp ht)⟩
  | createMatch ht =>
    unfold createMatch at ht
    obtain ⟨hblank, ht⟩ := leads_unless.mp ht
    obtain ⟨_, -, ht⟩ := leads_get ht
    exact .inr ⟨_, rfl, fun _ => hblank, captions_inserted (leads_addition.mp ht)⟩
  | @completeMatch id form _ ht =>
    obtain ⟨c⟩ := completion_of_leads ht
    have hid : Table.id (c.game.completedBy form.facts) = id := c.game_id
    refine .inl (captions_replaced (r := c.game.completedBy form.facts) hn.games
      (find?_eq_some c.game_found).1 rfl rfl ?_ ?_).le
    · rw [hid]
      exact c.games_eq
    · rw [c.frame]
      rfl
  | createRule ht =>
    obtain ⟨_, _, _, -, hrule, hconditions⟩ := createRule_leads ht
    rw [hconditions.store, hrule.store]
    exact .inl le_rfl
  | setRuleActive ht =>
    obtain ⟨_, -, hu⟩ := setRuleActive_leads ht
    obtain ⟨-, -, rfl⟩ := update_eq_ok.mp hu
    exact .inl le_rfl
  | createVariable ht =>
    obtain ⟨_, rfl, -, hi⟩ := createVariable_leads ht
    -- a label is not checked once it is squeezed
    exact .inr ⟨_, rfl, nofun, captions_inserted hi⟩
  | @setVariableActive _ form _ ht =>
    obtain ⟨v, hv, hu⟩ := setVariableActive_leads ht
    exact .inl (captions_updated (r := { v with isActive := form.isActive }) hn.ownVariables
      (find?_eq_some hv).1 rfl rfl hu).le
  | deleteVariable ht =>
    rw [deleteVariable_leads ht]
    exact .inl (captions_filtered _)
  | @createProfile form _ ht =>
    obtain ⟨profile, _, _, rfl, hprofile, hrules⟩ := createProfile_leads ht
    refine .inr ⟨_, rfl, nofun, ?_⟩
    rw [← s.captions_beforeProfile form]
    rw [hrules.store]
    exact captions_inserted hprofile

/-! ## Captions along a run -/

def captionGiven? (s : Store) (x : Arrival) : Option Caption :=
  if s.captions.card < (s.served x).2.captions.card then
    x.request.action.toOption.bind Action.caption?
  else none

def captionsGiven (s : Store) : List Arrival → List Caption
  | [] => []
  | x :: rest => (s.captionGiven? x).toList ++ (s.served x).2.captionsGiven rest

theorem captions_served (hn : s.Numbered) (x : Arrival) :
    (s.captionGiven? x = none ∧ (s.served x).2.captions ≤ s.captions) ∨
      ∃ g, s.captionGiven? x = some g ∧ g.Passes ∧
        (s.served x).2.captions = g.squeezed ::ₘ s.captions := by
  have hnone (hle : (s.served x).2.captions ≤ s.captions) : s.captionGiven? x = none :=
    if_neg (not_lt.mpr (Multiset.card_le_card hle))
  cases haction : x.request.action with
  | error answer =>
    have hsame : (s.served x).2 = s := by simp only [Store.served, Request.serve, haction]
    have hle : (s.served x).2.captions ≤ s.captions := by rw [hsame]
    exact .inl ⟨hnone hle, hle⟩
  | ok a =>
    have ht : a.Turns x.policy s (s.served x).2 := by
      rw [served_of_action haction]
      exact a.turns_serve ..
    rcases captions_of_turns hn ht with hle | ⟨g, hg, hchecked, hcons⟩
    · exact .inl ⟨hnone hle, hle⟩
    · obtain ⟨hleast, hmost⟩ := Action.caption_bounds (Request.isSubmitted_of_action haction) hg
      refine .inr ⟨g, ?_, ⟨hleast, hmost, Action.caption_small hg, hchecked⟩, hcons⟩
      rw [captionGiven?, hcons, if_pos (by simp), haction]
      exact hg

theorem passes_of_mem_captionsGiven (h : s.Reachable) {arrivals : List Arrival} :
    ∀ g ∈ s.captionsGiven arrivals, g.Passes := by
  induction arrivals generalizing s with
  | nil => nofun
  | cons x rest ih =>
    intro g hg
    rcases List.mem_append.mp hg with hg | hg
    · rcases captions_served h.numbered x with ⟨hnone, -⟩ | ⟨g', hsome, hpasses, -⟩
      · rw [hnone] at hg
        cases hg
      · rw [hsome, Option.toList_some, List.mem_singleton] at hg
        rwa [hg]
    · exact ih (h.served x) g hg

theorem mem_captions_after (h : s.Reachable) {arrivals : List Arrival} {c : Caption}
    (hc : c ∈ (s.after arrivals).captions) :
    c ∈ s.captions ∨ ∃ g ∈ s.captionsGiven arrivals, c = g.squeezed := by
  induction arrivals generalizing s with
  | nil => exact .inl hc
  | cons x rest ih =>
    rcases ih (h.served x) hc with hc | ⟨g, hg, rfl⟩
    · rcases captions_served h.numbered x with ⟨-, hle⟩ | ⟨g, hsome, -, hcons⟩
      · exact .inl (Multiset.mem_of_le hle hc)
      · rw [hcons, Multiset.mem_cons] at hc
        rcases hc with rfl | hc
        · refine .inr ⟨g, List.mem_append_left _ ?_, rfl⟩
          rw [hsome]
          exact List.mem_singleton_self g
        · exact .inl hc
    · exact .inr ⟨g, List.mem_append_right _ hg, rfl⟩

/-- One request keeps all captions in bounds just if a caption that it gives has letters enough. -/
theorem inBounds_served_iff (h : s.Reachable) (hs : ∀ c ∈ s.captions, c.InBounds) (x : Arrival) :
    (∀ c ∈ (s.served x).2.captions, c.InBounds) ↔ ∀ g ∈ s.captionGiven? x, g.HasLetters := by
  rcases captions_served h.numbered x with ⟨hnone, hle⟩ | ⟨g, hsome, hpasses, hcons⟩
  · rw [hnone]
    exact iff_of_true (fun c hc => hs c (Multiset.mem_of_le hle hc)) nofun
  · rw [hcons, hsome, Multiset.forall_mem_cons, hpasses.inBounds_squeezed_iff]
    simp only [Option.mem_some_iff, forall_eq']
    exact and_iff_left hs

theorem inBounds_along_iff (h : s.Reachable) (hs : ∀ c ∈ s.captions, c.InBounds)
    (arrivals : List Arrival) :
    (∀ n, ∀ c ∈ (s.after (arrivals.take n)).captions, c.InBounds) ↔
      ∀ g ∈ s.captionsGiven arrivals, g.HasLetters := by
  induction arrivals generalizing s with
  | nil => exact iff_of_true (fun n => by rwa [List.take_nil]) nofun
  | cons x rest ih =>
    rw [captionsGiven, List.forall_mem_append]
    have hgiven : (∀ g ∈ (s.captionGiven? x).toList, g.HasLetters) ↔
        ∀ g ∈ s.captionGiven? x, g.HasLetters := by simp only [Option.mem_toList, Option.mem_def]
    rw [hgiven, ← inBounds_served_iff h hs x]
    constructor
    · intro hall
      have hx := hall 1
      exact ⟨hx, (ih (h.served x) hx).mp fun n => hall (n + 1)⟩
    · rintro ⟨hx, hrest⟩ n
      cases n with
      | zero => exact hs
      | succ n => exact (ih (h.served x) hx).mpr hrest n

theorem captions_empty : captions {} = 0 := rfl

/-- The bounds of a form hold of a text as it is given. What is stored is that text squeezed: of at
most a hundred characters, without blanks at the ends and with single spaces inside, and not empty if
that is checked. Its least length is kept in all stores of a run just if all texts that are given
have as many letters. -/
theorem captions_bounded (arrivals : List Arrival) :
    (∀ g ∈ captionsGiven {} arrivals, g.least ≤ g.text.length ∧ g.text.length ≤ 100) ∧
      (∀ c ∈ (after {} arrivals).captions,
        (∃ g ∈ captionsGiven {} arrivals, c = g.squeezed) ∧ c.text.length ≤ 100 ∧
          Text.IsSqueezed c.text.toList ∧ (c.isChecked = true → 1 ≤ c.text.length)) ∧
      ((∀ n, ∀ c ∈ (after {} (arrivals.take n)).captions, c.InBounds) ↔
        ∀ g ∈ captionsGiven {} arrivals, g.HasLetters) := by
  have hnone : ∀ c ∈ captions {}, c.InBounds := by
    rw [captions_empty]
    exact fun c hc => absurd hc (Multiset.notMem_zero c)
  refine ⟨fun g hg => ?_, fun c hc => ?_, inBounds_along_iff reachable_empty hnone arrivals⟩
  · have hpasses := passes_of_mem_captionsGiven reachable_empty g hg
    exact ⟨hpasses.least, hpasses.most⟩
  · rcases mem_captions_after reachable_empty hc with hc | ⟨g, hg, rfl⟩
    · rw [captions_empty] at hc
      exact absurd hc (Multiset.notMem_zero c)
    · have hpasses := passes_of_mem_captionsGiven reachable_empty g hg
      refine ⟨⟨g, hg, rfl⟩, (Text.length_squeeze_le _).trans hpasses.most,
        Text.isSqueezed_squeeze _, fun hchecked => ?_⟩
      exact Nat.one_le_iff_ne_zero.mpr fun hzero =>
        hpasses.checked hchecked (String.length_eq_zero_iff.mp hzero)

def blankTexts : List Arrival := [
  .posting "/clubs/" (ClubForm.document { name := " a" }),
  .posting "/teams/" (TeamForm.document { name := "b ", clubId := 1 }),
  .posting "/profiles/" (ProfileForm.document { clubId := 1, name := " " }),
  .posting "/variables/" (VariableForm.document {
    teamId := 1, key := "blocks", label := " ", description := "Shots blocked", scope := .ofPlayer
    dataType := .number, defaultValue := none })]

/-- A name of a club or a team may be stored with one character, and a name of a profile or a label
of a variable with none. -/
theorem captions_bounded_not_always :
    ¬(∀ s : Store, s.Reachable → ∀ r ∈ s.clubs, 2 ≤ r.name.length) ∧
      ¬(∀ s : Store, s.Reachable → ∀ r ∈ s.teams, 2 ≤ r.name.length) ∧
      ¬(∀ s : Store, s.Reachable → ∀ r ∈ s.profiles, 1 ≤ r.name.length) ∧
      ¬∀ s : Store, s.Reachable → ∀ r ∈ s.ownVariables, 1 ≤ r.label.length := by
  have hreachable : (after {} blankTexts).Reachable := ⟨blankTexts, rfl⟩
  refine ⟨fun h => ?_, fun h => ?_, fun h => ?_, fun h => ?_⟩
  · exact absurd (h _ hreachable) (by decide +kernel)
  · exact absurd (h _ hreachable) (by decide +kernel)
  · exact absurd (h _ hreachable) (by decide +kernel)
  · exact absurd (h _ hreachable) (by decide +kernel)

end Store

end ClubPoints
