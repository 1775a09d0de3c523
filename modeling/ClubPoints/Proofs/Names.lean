import ClubPoints.Proofs.InTurn

/-!
# Names that are taken

A name is taken if a stored name, with its basic letters in lower case, equals the new one with all
its letters in lower case (`Naming.IsTaken`). Both ways to lower a name agree where only basic
letters have a case, and so far stored names are distinct up to case (`taken_names_refused`).
-/

namespace ClubPoints

open Form Store

/-! ## Lower case -/

namespace Text

/-- The letters A to Z are the only ones of a text that have another lower case. -/
def HasBasicCase (s : String) : Prop := lowerBasic s = lower s

theorem mapByRuns_of_lt : ∀ n < 128,
    mapByRuns lowerRuns (Char.ofNat n) = (Char.ofNat n).toLower := by
  decide +kernel

theorem lowerChar_of_lt {c : Char} (h : c.toNat < 128) (before after : List Char) :
    lowerChar before c after = [c.toLower] := by
  have hsigma : c ≠ 'Σ' := by
    rintro rfl
    exact absurd h (by decide)
  have hdotted : c ≠ 'İ' := by
    rintro rfl
    exact absurd h (by decide)
  have hmap := mapByRuns_of_lt c.toNat h
  rw [Char.ofNat_toNat] at hmap
  rw [lowerChar, if_neg hsigma, if_neg hdotted, hmap]

theorem hasBasicCase_of_lt {s : String} (h : ∀ c ∈ s.toList, c.toNat < 128) : HasBasicCase s := by
  have hlower (before chars : List Char) (hchars : ∀ c ∈ chars, c.toNat < 128) :
      lowerFrom before chars = chars.map Char.toLower := by
    induction chars generalizing before with
    | nil => rfl
    | cons c rest ih =>
      obtain ⟨hc, hrest⟩ := List.forall_mem_cons.mp hchars
      rw [lowerFrom, lowerChar_of_lt hc, ih _ hrest]
      rfl
  rw [HasBasicCase, lower, hlower [] s.toList h, lowerBasic, String.map_eq_internal]

end Text

/-! ## New names -/

structure Naming where
  name : String
  rivals : List String
  refusal : Refusal

def Naming.IsTaken (n : Naming) : Prop :=
  ∃ stored ∈ n.rivals, Text.lowerBasic stored = Text.lower n.name

namespace Store

def teamNames (s : Store) (clubId : Int) : List String :=
  (s.teams.filter fun t => t.clubId == clubId).map TeamRecord.name

def playerNames (s : Store) (teamId : Int) : List String :=
  (s.rosterOf teamId).map PlayerRecord.name

/-- Names that stand side by side: those of all clubs, of the teams of each club and of the players
of each team. -/
def nameGroups (s : Store) : List (List String) :=
  s.clubs.map ClubRecord.name :: s.clubs.map (fun club => s.teamNames club.id) ++
    s.teams.map fun team => s.playerNames team.id

def clubNaming (s : Store) (form : ClubForm) : Naming where
  name := Text.squeeze form.name
  rivals := s.clubs.map ClubRecord.name
  refusal := .clubNameTaken

def teamNaming (s : Store) (form : TeamForm) : Naming where
  name := Text.squeeze form.name
  rivals := s.teamNames form.clubId
  refusal := .teamNameTaken

def playerNaming (s : Store) (form : PlayerForm) : Naming where
  name := Text.squeeze form.name
  rivals := s.playerNames form.teamId
  refusal := .playerNameTaken

end Store

def Action.naming? (s : Store) : Action → Option Naming
  | .createClub form => some (s.clubNaming form)
  | .createTeam form => (s.find? form.clubId : Option ClubRecord).map fun _ => s.teamNaming form
  | .createPlayer form => (s.find? form.teamId : Option TeamRecord).map fun _ => s.playerNaming form
  | _ => none

namespace Naming

variable {α : Type} {n : Naming}

theorem any_namesClash :
    (n.rivals.any fun stored => namesClash stored n.name) = true ↔ n.IsTaken := by
  simp [namesClash, IsTaken]

instance : Decidable n.IsTaken := decidable_of_iff _ any_namesClash

def change (n : Naming) (whenEmpty : Refusal) (c : Change α) : Except Cause (Change α) :=
  if n.name = "" then .error (.refused whenEmpty)
  else if n.IsTaken then .error (.refused n.refusal)
  else .ok c

theorem change_any {whenEmpty : Refusal} {c : Change α} :
    n.change whenEmpty c =
      if n.name = "" then .error (.refused whenEmpty)
      else if n.rivals.any fun stored => namesClash stored n.name then .error (.refused n.refusal)
      else .ok c := by
  unfold change
  simp only [any_namesClash]

end Naming

namespace Store

variable {s t : Store}

theorem createClub_eq (form : ClubForm) :
    s.createClub form = (s.clubNaming form).change .emptyClubName
      (s.addition { name := Text.squeeze form.name : ClubRecord }) := by
  rw [Naming.change_any, clubNaming, List.any_map]
  rfl

theorem createTeam_eq (hs : s.InTurn) {form : TeamForm} {club : ClubRecord}
    (hclub : s.find? form.clubId = some club) :
    s.createTeam form = (s.teamNaming form).change .emptyTeamName
      (s.addition { name := Text.squeeze form.name, clubId := form.clubId : TeamRecord }) := by
  have hid : club.id = form.clubId := (find?_eq_some hclub).2
  rw [Naming.change_any]
  unfold createTeam
  rw [hs.clubs.get_eq .club hclub]
  simp only [teamNaming, teamNames, List.any_map, List.any_filter, bind, Except.bind, hid]
  rfl

theorem createPlayer_eq (hs : s.InTurn) {form : PlayerForm} {team : TeamRecord}
    (hteam : s.find? form.teamId = some team) :
    s.createPlayer form = (s.playerNaming form).change .emptyPlayerName (s.addition {
      name := Text.squeeze form.name
      position := form.position
      teamId := form.teamId : PlayerRecord }) := by
  have hid : team.id = form.teamId := (find?_eq_some hteam).2
  rw [Naming.change_any]
  unfold createPlayer
  rw [hs.teams.get_eq .team hteam]
  simp only [playerNaming, playerNames, rosterOf, List.any_map, List.any_filter, bind, Except.bind,
    hid]
  rfl

theorem club_of_createTeam {form : TeamForm} (h : Leads (s.createTeam form) t) :
    ∃ club : ClubRecord, s.find? form.clubId = some club := by
  unfold createTeam at h
  obtain ⟨-, h⟩ := leads_unless.mp h
  obtain ⟨club, hclub, -⟩ := leads_get h
  exact ⟨club, hclub⟩

theorem team_of_createPlayer {form : PlayerForm} (h : Leads (s.createPlayer form) t) :
    ∃ team : TeamRecord, s.find? form.teamId = some team := by
  unfold createPlayer at h
  obtain ⟨-, h⟩ := leads_unless.mp h
  obtain ⟨team, hteam, -⟩ := leads_get h
  exact ⟨team, hteam⟩

end Store

/-! ## Answers -/

theorem Answer.detail_inj {status : Nat} {text text' : String}
    (h : Answer.detail status text = .detail status text') : text = text' := by
  simpa [Answer.detail] using h

theorem Store.addition_failed {R : Type} [Table R] {s : Store} {r : R} {isRefused : Bool}
    {cause : Cause} (h : (s.addition r).commit isRefused = .error cause) (status : Nat) :
    Answer.ofCause status cause = .failed := by
  cases isRefused with
  | true =>
    cases h
    rfl
  | false =>
    unfold addition at h
    cases hinsert : s.insert r with
    | error fault =>
      rw [hinsert] at h
      cases h
      rfl
    | ok x =>
      rw [hinsert] at h
      cases h

namespace Action

variable {s : Store} {a : Action} {n : Naming}

/-- All actions that bring a new name are carried out alike. -/
theorem run_naming (hs : s.InTurn) (h : a.naming? s = some n) (policy : Policy)
    (isRefused : Bool) :
    ∃ (R : Type) (_ : Table R) (r : R) (whenEmpty : Refusal) (shown : Store → R → Option Value),
      a.run policy isRefused s =
          Outcome.ofChange isRefused (n.change whenEmpty (s.addition r)) shown ∧
        whenEmpty.message ≠ n.refusal.message ∧ a.successStatus ≠ a.refusalStatus := by
  cases a with
  | createClub form =>
    cases h
    refine ⟨ClubRecord, inferInstance, { name := Text.squeeze form.name }, .emptyClubName,
      fun _ c => c.view.document, ?_, ?_, ?_⟩
    · rw [run, createClub_eq]
    · show Refusal.emptyClubName.message ≠ Refusal.clubNameTaken.message
      decide
    · simp [successStatus, refusalStatus]
  | createTeam form =>
    obtain ⟨club, hclub, rfl⟩ := Option.map_eq_some_iff.mp h
    refine ⟨TeamRecord, inferInstance, { name := Text.squeeze form.name, clubId := form.clubId },
      .emptyTeamName, fun _ t => t.view.document, ?_, ?_, ?_⟩
    · rw [run, createTeam_eq hs hclub]
    · show Refusal.emptyTeamName.message ≠ Refusal.teamNameTaken.message
      decide
    · simp [successStatus, refusalStatus]
  | createPlayer form =>
    obtain ⟨team, hteam, rfl⟩ := Option.map_eq_some_iff.mp h
    refine ⟨PlayerRecord, inferInstance,
      { name := Text.squeeze form.name, position := form.position, teamId := form.teamId },
      .emptyPlayerName, fun _ p => p.view.document, ?_, ?_, ?_⟩
    · rw [run, createPlayer_eq hs hteam]
    · show Refusal.emptyPlayerName.message ≠ Refusal.playerNameTaken.message
      decide
    · simp [successStatus, refusalStatus]
  | _ => cases h

theorem serve_naming (hs : s.InTurn) (h : a.naming? s = some n)
    (hgiven : ∀ stored ∈ n.rivals, stored ≠ "") (policy : Policy) (isRefused : Bool) :
    a.serve policy isRefused s = (.detail a.refusalStatus n.refusal.message, s) ↔ n.IsTaken := by
  -- no other refusal has this message, and no success this status
  obtain ⟨R, _, r, whenEmpty, shown, hrun, hmessage, hstatus⟩ := run_naming hs h policy isRefused
  unfold serve
  rw [hrun, Naming.change]
  by_cases hname : n.name = ""
  · rw [if_pos hname]
    refine iff_of_false (fun heq => hmessage (Answer.detail_inj (congrArg Prod.fst heq))) ?_
    rintro ⟨stored, hstored, hlower⟩
    rw [hname] at hlower
    exact hgiven stored hstored (String.map_eq_empty.mp hlower)
  rw [if_neg hname]
  by_cases htaken : n.IsTaken
  · rw [if_pos htaken]
    exact iff_of_true rfl htaken
  · rw [if_neg htaken]
    refine iff_of_false (fun heq => ?_) htaken
    have hanswer := congrArg Prod.fst heq
    cases hcommit : (s.addition r).commit isRefused with
    | error cause =>
      have hfailed := Store.addition_failed hcommit a.refusalStatus
      simp only [Outcome.ofChange, bind, Except.bind, hcommit, hfailed] at hanswer
      cases hanswer
    | ok x =>
      simp only [Outcome.ofChange, bind, Except.bind, hcommit, pure, Except.pure] at hanswer
      cases hshown : shown x.1 x.2 with
      | none =>
        rw [hshown] at hanswer
        cases hanswer
      | some v =>
        rw [hshown] at hanswer
        exact hstatus (Answer.shown.inj hanswer).1

end Action

/-! ## Stored names -/

class NamedTable (R : Type) [Table R] extends LawfulTable R where
  owner : R → Int
  nameOf : R → String
  kept_eq (r : R) : Table.kept r = r
  owner_setId (r : R) (n : Int) : owner (Table.setId r n) = owner r
  nameOf_setId (r : R) (n : Int) : nameOf (Table.setId r n) = nameOf r
  clashes_iff (a b : R) : Table.clashes a b = true ↔ owner a = owner b ∧ nameOf a = nameOf b

open NamedTable

instance : NamedTable ClubRecord where
  owner _ := 0
  nameOf := ClubRecord.name
  kept_eq _ := rfl
  owner_setId _ _ := rfl
  nameOf_setId _ _ := rfl
  clashes_iff a b := by simp [Table.clashes]

instance : NamedTable TeamRecord where
  owner := TeamRecord.clubId
  nameOf := TeamRecord.name
  kept_eq _ := rfl
  owner_setId _ _ := rfl
  nameOf_setId _ _ := rfl
  clashes_iff a b := by simp [Table.clashes]

instance : NamedTable PlayerRecord where
  owner := PlayerRecord.teamId
  nameOf := PlayerRecord.name
  kept_eq _ := rfl
  owner_setId _ _ := rfl
  nameOf_setId _ _ := rfl
  clashes_iff a b := by simp [Table.clashes, and_comm]

namespace Store

variable {s t : Store} {R : Type} [Table R] [NamedTable R]

def namesOf (s : Store) (R : Type) [Table R] [NamedTable R] (id : Int) : List String :=
  ((Table.rows s : List R).filter fun r => owner r == id).map nameOf

/-- Names are given, and a later one is neither an earlier one nor taken by it. -/
structure NamesApart (R : Type) [Table R] [NamedTable R] (s : Store) : Prop where
  given : ∀ r ∈ (Table.rows s : List R), nameOf r ≠ ""
  apart : ∀ a ∈ (Table.rows s : List R), ∀ b ∈ (Table.rows s : List R), owner a = owner b →
    Table.id a < Table.id b → nameOf a ≠ nameOf b ∧
      Text.lowerBasic (nameOf a) ≠ Text.lower (nameOf b)

namespace NamesApart

theorem empty (h : (Table.rows ({} : Store) : List R) = []) : NamesApart R {} := by
  constructor <;> rw [h] <;> exact fun _ h => absurd h List.not_mem_nil

theorem of_kept (h : NamesApart R s) (hk : Kept (fun r : R => (Table.id r, owner r, nameOf r))
    (Table.rows t) (Table.rows s)) : NamesApart R t := by
  have hsource : ∀ r ∈ (Table.rows t : List R), ∃ r' ∈ (Table.rows s : List R),
      Table.id r' = Table.id r ∧ owner r' = owner r ∧ nameOf r' = nameOf r := by
    intro r hr
    obtain ⟨r', hr', hsame⟩ := hk r hr
    obtain ⟨hid, hrest⟩ := Prod.mk.inj hsame
    exact ⟨r', hr', hid, Prod.mk.inj hrest⟩
  constructor
  · intro r hr
    obtain ⟨r', hr', -, -, hname⟩ := hsource r hr
    rw [← hname]
    exact h.given r' hr'
  · intro a ha b hb howner hid
    obtain ⟨a', ha', haid, haowner, haname⟩ := hsource a ha
    obtain ⟨b', hb', hbid, hbowner, hbname⟩ := hsource b hb
    rw [← haname, ← hbname]
    exact h.apart a' ha' b' hb' (haowner.trans (howner.trans hbowner.symm)) (haid ▸ hbid ▸ hid)

theorem congr (h : NamesApart R s) (hrows : (Table.rows t : List R) = Table.rows s) :
    NamesApart R t :=
  h.of_kept (by rw [hrows]; exact .refl)

theorem inserted (h : NamesApart R s) (hc : Counted R s) {r : R} (hname : nameOf r ≠ "")
    (hfree : ∀ stored ∈ s.namesOf R (owner r), Text.lowerBasic stored ≠ Text.lower (nameOf r))
    (hi : Inserted s (Table.setId r (s.nextId R)) t) : NamesApart R t := by
  obtain ⟨-, -, -, hclash⟩ := fault?_eq_none.mp hi.sound
  have hrows := hc.inserted_rows hi
  rw [kept_eq] at hrows
  have hlast : Table.id (Table.setId r (s.nextId R)) = s.nextId R := LawfulTable.id_setId ..
  constructor
  · rw [hrows, List.forall_mem_append, List.forall_mem_singleton, nameOf_setId]
    exact ⟨h.given, hname⟩
  · intro a ha b hb howner hid
    rw [hrows, List.mem_append, List.mem_singleton] at ha hb
    rcases ha with ha | rfl
    · rcases hb with hb | rfl
      · exact h.apart a ha b hb howner hid
      · -- the new row comes after the old one
        rw [nameOf_setId]
        rw [owner_setId] at howner
        constructor
        · intro hsame
          have hnone := hclash a ha
          rw [← Bool.not_eq_true, clashes_iff, owner_setId, nameOf_setId] at hnone
          exact hnone ⟨howner, hsame⟩
        · exact hfree _ (List.mem_map_of_mem (List.mem_filter.mpr ⟨ha, beq_iff_eq.mpr howner⟩))
    · -- no row has a larger number than the new one
      exfalso
      rw [hlast] at hid
      rcases hb with hb | rfl
      · exact absurd hid (lt_asymm (hc.id_lt_next b hb))
      · rw [hlast] at hid
        exact lt_irrefl _ hid

theorem pairwise (h : NamesApart R s) (hc : Counted R s) (id : Int) :
    (s.namesOf R id).Pairwise fun earlier later =>
      earlier ≠ later ∧ Text.lowerBasic earlier ≠ Text.lower later := by
  refine List.pairwise_map.mpr ((hc.increasing.filter _).imp_of_mem fun {a b} ha hb hab => ?_)
  obtain ⟨ha, haowner⟩ := List.mem_filter.mp ha
  obtain ⟨hb, hbowner⟩ := List.mem_filter.mp hb
  exact h.apart a ha b hb ((eq_of_beq haowner).trans (eq_of_beq hbowner).symm) hab

end NamesApart

/-! ## Names in every store -/

theorem namesOf_clubs (s : Store) : s.namesOf ClubRecord 0 = s.clubs.map ClubRecord.name := by
  have hall : (s.clubs.filter fun r => owner r == (0 : Int)) = s.clubs :=
    List.filter_eq_self.mpr fun _ _ => rfl
  exact congrArg (List.map ClubRecord.name) hall

theorem leads_change {α : Type} {n : Naming} {whenEmpty : Refusal} {c : Change α} :
    Leads (n.change whenEmpty c) t ↔ n.name ≠ "" ∧ ¬n.IsTaken ∧ Leads (.ok c) t := by
  rw [Naming.change, leads_unless, leads_unless]

theorem NamesApart.changed {n : Naming} {whenEmpty : Refusal} {r : R} (h : NamesApart R s)
    (hc : Counted R s) (hname : nameOf r = n.name) (hrivals : n.rivals = s.namesOf R (owner r))
    (ht : Leads (n.change whenEmpty (s.addition r)) t) : NamesApart R t := by
  obtain ⟨hgiven, hfree, hadded⟩ := leads_change.mp ht
  rw [← hname] at hgiven
  refine h.inserted hc hgiven (fun stored hstored hlower => hfree ⟨stored, ?_, ?_⟩)
    (leads_addition.mp hadded)
  · rw [hrivals]
    exact hstored
  · rw [hlower, hname]

structure Named (s : Store) : Prop where
  clubs : NamesApart ClubRecord s
  teams : NamesApart TeamRecord s
  players : NamesApart PlayerRecord s

namespace Named

theorem turns {policy : Policy} {a : Action} (h : s.Named) (hs : s.InTurn)
    (ht : a.Turns policy s t) : t.Named := by
  constructor
  · rcases ht.touched.clubs with hsame | ⟨_, ht⟩
    · exact h.clubs.congr hsame
    · rw [createClub_eq] at ht
      exact h.clubs.changed hs.clubs rfl (namesOf_clubs s).symm ht
  · rcases ht.touched.teams with hsame | ⟨_, ht⟩ | ⟨_, form, ht⟩
    · exact h.teams.congr hsame
    · obtain ⟨club, hclub⟩ := club_of_createTeam ht
      rw [createTeam_eq hs hclub] at ht
      exact h.teams.changed hs.teams rfl rfl ht
    · -- a new default profile changes no name
      obtain ⟨team, hteam, -, hu⟩ := setTeamProfile_leads ht
      obtain ⟨-, -, rfl⟩ := update_eq_ok.mp hu
      refine h.teams.of_kept fun x hx => ?_
      rcases mem_placed.mp hx with rfl | hx
      · exact ⟨team, (find?_eq_some hteam).1, rfl⟩
      · exact ⟨x, (List.mem_filter.mp hx).1, rfl⟩
  · rcases ht.touched.players with hsame | ⟨_, ht⟩
    · exact h.players.congr hsame
    · obtain ⟨team, hteam⟩ := team_of_createPlayer ht
      rw [createPlayer_eq hs hteam] at ht
      exact h.players.changed hs.players rfl rfl ht

end Named

theorem Reachable.named (h : s.Reachable) : s.Named :=
  h.induction ⟨.empty rfl, .empty rfl, .empty rfl⟩ fun _ _ _ _ hr hs _ ht => hs.turns hr.inTurn ht

theorem Reachable.rivals_given (h : s.Reachable) {a : Action} {n : Naming}
    (hn : a.naming? s = some n) : ∀ stored ∈ n.rivals, stored ≠ "" := by
  cases a with
  | createClub form =>
    cases hn
    exact List.forall_mem_map.mpr h.named.clubs.given
  | createTeam form =>
    obtain ⟨club, -, rfl⟩ := Option.map_eq_some_iff.mp hn
    exact List.forall_mem_map.mpr fun r hr => h.named.teams.given r (List.mem_filter.mp hr).1
  | createPlayer form =>
    obtain ⟨team, -, rfl⟩ := Option.map_eq_some_iff.mp hn
    exact List.forall_mem_map.mpr fun r hr => h.named.players.given r (List.mem_filter.mp hr).1
  | _ => cases hn

theorem Reachable.nameGroups_apart (h : s.Reachable) : ∀ group ∈ s.nameGroups,
    group.Pairwise fun earlier later =>
      earlier ≠ later ∧ Text.lowerBasic earlier ≠ Text.lower later := by
  intro group hgroup
  rcases List.mem_append.mp hgroup with hgroup | hgroup
  · rcases List.mem_cons.mp hgroup with rfl | hgroup
    · rw [← namesOf_clubs]
      exact h.named.clubs.pairwise h.inTurn.clubs 0
    · obtain ⟨club, -, rfl⟩ := List.mem_map.mp hgroup
      exact h.named.teams.pairwise h.inTurn.teams club.id
  · obtain ⟨team, -, rfl⟩ := List.mem_map.mp hgroup
    exact h.named.players.pairwise h.inTurn.players team.id

/-- A new name is refused, with nothing stored, just if it is taken; names side by side are all
different, and no later one is taken by an earlier one. Where the stored names have basic case, as
those of the first 128 characters do, this is so for their lower case. -/
theorem taken_names_refused (s : Store) (h : s.Reachable) :
    (∀ (x : Arrival) (a : Action) (n : Naming), x.request.action = .ok a → a.naming? s = some n →
      (s.served x = (.detail a.refusalStatus n.refusal.message, s) ↔ n.IsTaken) ∧
      ((∀ stored ∈ n.rivals, Text.HasBasicCase stored) →
        (s.served x = (.detail a.refusalStatus n.refusal.message, s) ↔
          ∃ stored ∈ n.rivals, Text.lower stored = Text.lower n.name))) ∧
    (∀ group ∈ s.nameGroups,
      (group.Pairwise fun earlier later =>
        earlier ≠ later ∧ Text.lowerBasic earlier ≠ Text.lower later) ∧
      ((∀ name ∈ group, Text.HasBasicCase name) → (group.map Text.lower).Nodup)) ∧
    ∀ name : String, (∀ c ∈ name.toList, c.toNat < 128) → Text.HasBasicCase name := by
  refine ⟨?_, ?_, fun _ => Text.hasBasicCase_of_lt⟩
  · intro x a n hx hn
    have htaken : s.served x = (.detail a.refusalStatus n.refusal.message, s) ↔ n.IsTaken := by
      rw [served_of_action hx]
      exact Action.serve_naming h.inTurn hn (h.rivals_given hn) x.policy x.isRefused
    refine ⟨htaken, fun hbasic => htaken.trans (exists_congr fun stored => and_congr_right ?_)⟩
    intro hstored
    rw [show Text.lowerBasic stored = Text.lower stored from hbasic stored hstored]
  · intro group hgroup
    have hapart := h.nameGroups_apart group hgroup
    refine ⟨hapart, fun hbasic => List.pairwise_map.mpr (hapart.imp_of_mem ?_)⟩
    intro earlier later hearlier _ hab
    rw [← show Text.lowerBasic earlier = Text.lower earlier from hbasic earlier hearlier]
    exact hab.2

def newClub (name : String) : Arrival := .posting "/clubs/" (ClubForm.document { name })

def twoClubs : List Arrival := [newClub "Rovers", newClub "Élan"]

theorem taken_names_refused_twoClubs :
    (after {} twoClubs).Reachable ∧
      (after {} twoClubs).clubs.map ClubRecord.name = ["Rovers", "Élan"] ∧
      (after {} twoClubs).served (newClub "ROVERS") =
        (.detail 409 "A club with this name already exists.", after {} twoClubs) ∧
      ∀ group ∈ (after {} twoClubs).nameGroups, group.Pairwise fun earlier later =>
        earlier ≠ later ∧ Text.lowerBasic earlier ≠ Text.lower later := by
  have hreachable : (after {} twoClubs).Reachable := ⟨twoClubs, rfl⟩
  obtain ⟨hanswers, hgroups, -⟩ := taken_names_refused _ hreachable
  have htaken : ((after {} twoClubs).clubNaming { name := "ROVERS" }).IsTaken := by decide +kernel
  exact ⟨hreachable, by decide +kernel,
    (hanswers (newClub "ROVERS") (.createClub { name := "ROVERS" }) _ rfl rfl).1.mpr htaken,
    fun group hgroup => (hgroups group hgroup).1⟩

/-- A letter outside A to Z hides a stored name from its own lower case: both names are stored. -/
theorem taken_names_refused_not_always :
    ¬(∀ s : Store, s.Reachable → ∀ (x : Arrival) (a : Action) (n : Naming),
      x.request.action = .ok a → a.naming? s = some n →
      (∃ stored ∈ n.rivals, Text.lower stored = Text.lower n.name) →
      s.served x = (.detail a.refusalStatus n.refusal.message, s)) ∧
    ¬∀ s : Store, s.Reachable → ∀ group ∈ s.nameGroups, (group.map Text.lower).Nodup := by
  constructor
  · intro h
    have hsame : ∃ stored ∈ ((after {} twoClubs).clubNaming { name := "élan" }).rivals,
        Text.lower stored = Text.lower "élan" := by decide +kernel
    have hrefused := h (after {} twoClubs) ⟨twoClubs, rfl⟩ (newClub "élan")
      (.createClub { name := "élan" }) _ rfl rfl hsame
    have hcreated : ((after {} twoClubs).served (newClub "élan")).1.hasStatus 201 = true := by
      decide +kernel
    rw [hrefused] at hcreated
    cases hcreated
  · intro h
    have hnames := h (after {} (twoClubs ++ [newClub "élan"])) ⟨_, rfl⟩ _ List.mem_cons_self
    revert hnames
    decide +kernel

end Store

end ClubPoints
