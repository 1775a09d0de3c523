import ClubPoints.Proofs.Configuration
import ClubPoints.Proofs.Counting

/-!
# Numbers in turn

Clubs, teams, players and matches are never removed, so each of their tables is counted: its numbers
are one, two, three and so on, all of them fit a word, and a new row comes after all others
(`Reachable.inTurn`).
-/

namespace ClubPoints.Store

variable {s t : Store}

/-- No number of a club, a team, a player or a match was left out. -/
structure InTurn (s : Store) : Prop where
  clubs : Counted ClubRecord s
  teams : Counted TeamRecord s
  players : Counted PlayerRecord s
  games : Counted MatchRecord s

namespace InTurn

theorem empty : InTurn {} where
  clubs := ⟨rfl, by decide⟩
  teams := ⟨rfl, by decide⟩
  players := ⟨rfl, by decide⟩
  games := ⟨rfl, by decide⟩

theorem turns {policy : Policy} {a : Action} (h : s.InTurn) (ht : a.Turns policy s t) :
    t.InTurn := by
  constructor
  · rcases ht.touched.clubs with hsame | ⟨_, ht⟩
    · exact h.clubs.congr hsame
    · obtain ⟨_, -, hi⟩ := createClub_leads ht
      exact h.clubs.inserted hi
  · rcases ht.touched.teams with hsame | ⟨_, ht⟩ | ⟨_, form, ht⟩
    · exact h.teams.congr hsame
    · obtain ⟨_, -, hi⟩ := createTeam_leads ht
      exact h.teams.inserted hi
    · obtain ⟨team, hteam, -, hu⟩ := setTeamProfile_leads ht
      exact h.teams.updated (r := { team with defaultProfileId := form.profileId })
        (find?_eq_some hteam).1 rfl hu
  · rcases ht.touched.players with hsame | ⟨_, ht⟩
    · exact h.players.congr hsame
    · obtain ⟨_, -, hi⟩ := createPlayer_leads ht
      exact h.players.inserted hi
  · rcases ht.touched.games with hsame | ⟨_, ht⟩ | ⟨id, form, _, ht⟩
    · exact h.games.congr hsame
    · exact h.games.inserted (createMatch_leads ht)
    · obtain ⟨c⟩ := completion_of_leads ht
      have hid : Table.id (c.game.completedBy form.facts) = id := c.game_id
      refine h.games.replaced (r := c.game.completedBy form.facts) (find?_eq_some c.game_found).1
        rfl ?_
      rw [hid]
      exact c.games_eq

end InTurn

theorem Reachable.inTurn (h : s.Reachable) : s.InTurn :=
  h.induction .empty fun _ _ _ _ _ hs _ ht => hs.turns ht

end ClubPoints.Store
