import ClubPoints.Proofs.Submission
import ClubPoints.Request.Serving

/-!
# Runs of the service

A run serves one request after another, starting from the empty store. Every request leaves the
store as it was or turns it into what one of twelve operations writes (`Action.Turns`).
-/

namespace ClubPoints

/-- A request that comes in, with the policy that it is served under and whether its commit is
refused. -/
structure Arrival where
  request : Request
  policy : Policy := {}
  isRefused : Bool := false

def Arrival.posting (path : String) (document : Value) : Arrival where
  request := { method := .post, path, body := .document document }

def Answer.hasStatus (n : Nat) : Answer → Bool
  | .shown status _ => status == n
  | _ => false

namespace Store

def served (s : Store) (x : Arrival) : Answer × Store := x.request.serve x.policy x.isRefused s

def after (s : Store) (arrivals : List Arrival) : Store :=
  arrivals.foldl (fun s x => (s.served x).2) s

def allAnswered (status : Nat) (s : Store) : List Arrival → Bool
  | [] => true
  | x :: rest => (s.served x).1.hasStatus status && (s.served x).2.allAnswered status rest

def Reachable (s : Store) : Prop := ∃ arrivals, s = after {} arrivals

def Leads {α : Type} (change : Except Cause (Change α)) (t : Store) : Prop :=
  ∃ c a, change = .ok c ∧ c.write = .ok (t, a)

end Store

open Store

inductive Action.Turns (policy : Policy) (s : Store) : Action → Store → Prop
  | nothing (a : Action) : Turns policy s a s
  | createClub {form t} : Leads (s.createClub form) t → Turns policy s (.createClub form) t
  | createTeam {form t} : Leads (s.createTeam form) t → Turns policy s (.createTeam form) t
  | setTeamProfile {id form t} :
    Leads (s.setTeamProfile id form) t → Turns policy s (.setTeamProfile id form) t
  | createPlayer {form t} : Leads (s.createPlayer form) t → Turns policy s (.createPlayer form) t
  | createMatch {form t} : Leads (s.createMatch form) t → Turns policy s (.createMatch form) t
  | completeMatch {id form t} :
    Leads (s.completeMatch id form policy.keepsAutomatic) t →
      Turns policy s (.completeMatch id form) t
  | createRule {form t} : Leads (s.createRule form) t → Turns policy s (.createRule form) t
  | setRuleActive {id form t} :
    Leads (s.setRuleActive id form) t → Turns policy s (.setRuleActive id form) t
  | createVariable {form t} :
    Leads (s.createVariable form) t → Turns policy s (.createVariable form) t
  | setVariableActive {id form t} :
    Leads (s.setVariableActive id form) t → Turns policy s (.setVariableActive id form) t
  | deleteVariable {id t} :
    Leads (s.deleteVariable id) t → Turns policy s (.deleteVariable id) t
  | createProfile {form t} :
    Leads (s.createProfile form) t → Turns policy s (.createProfile form) t

/-! ## One action -/

theorem Change.commit_eq_ok {α : Type} {c : Change α} {isRefused : Bool} {x : Store × α} :
    c.commit isRefused = .ok x ↔ isRefused = false ∧ c.write = .ok x := by
  cases isRefused with
  | true => simp [Change.commit]
  | false => simp [Change.commit, renamed_eq_ok]

namespace Outcome

theorem ofQuery_eq_ok {s : Store} {shown : Except Cause Value} {o : Outcome} :
    ofQuery s shown = .ok o ↔ ∃ v, shown = .ok v ∧ { store := s, shown := some v } = o :=
  map_eq_ok

theorem ofQuery?_eq_ok {s : Store} {shown : Except Cause (Option Value)} {o : Outcome} :
    ofQuery? s shown = .ok o ↔ ∃ v, shown = .ok v ∧ { store := s, shown := v } = o :=
  map_eq_ok

theorem ofChange_eq_ok {α : Type} {isRefused : Bool} {change : Except Cause (Change α)}
    {shown : Store → α → Option Value} {o : Outcome} :
    ofChange isRefused change shown = .ok o ↔
      isRefused = false ∧ ∃ c s a, change = .ok c ∧ c.write = .ok (s, a) ∧
        o = { store := s, shown := shown s a } := by
  simp only [ofChange, bind_eq_ok, Change.commit_eq_ok, Prod.exists, pure_eq_ok]
  constructor
  · rintro ⟨c, hc, s, a, ⟨hr, hw⟩, rfl⟩
    exact ⟨hr, c, s, a, hc, hw, rfl⟩
  · rintro ⟨hr, c, s, a, hc, hw, rfl⟩
    exact ⟨c, hc, s, a, ⟨hr, hw⟩, rfl⟩

theorem leads_of_ofChange {α : Type} {isRefused : Bool} {change : Except Cause (Change α)}
    {shown : Store → α → Option Value} {o : Outcome}
    (h : ofChange isRefused change shown = .ok o) : Leads change o.store := by
  obtain ⟨-, c, s, a, hc, hw, rfl⟩ := ofChange_eq_ok.mp h
  exact ⟨c, a, hc, hw⟩

end Outcome

namespace Action

open Outcome

variable {policy : Policy} {isRefused : Bool} {s : Store} {a : Action} {o : Outcome}

theorem run_completeMatch_eq_ok {id : Int} {form : Form.CompletionForm} :
    (completeMatch id form).run policy isRefused s = .ok o ↔
      isRefused = false ∧ ∃ c t a, s.completeMatch id form policy.keepsAutomatic = .ok c ∧
        c.write = .ok (t, a) ∧ o = { store := t, shown := t.showCompletion id form.facts } := by
  rw [run]
  exact ofChange_eq_ok

theorem turns_of_run (h : a.run policy isRefused s = .ok o) : a.Turns policy s o.store := by
  cases a <;> simp only [run] at h
  case createClub => exact .createClub (leads_of_ofChange h)
  case createTeam => exact .createTeam (leads_of_ofChange h)
  case setTeamProfile => exact .setTeamProfile (leads_of_ofChange h)
  case createPlayer => exact .createPlayer (leads_of_ofChange h)
  case createMatch => exact .createMatch (leads_of_ofChange h)
  case completeMatch => exact .completeMatch (leads_of_ofChange h)
  case createRule => exact .createRule (leads_of_ofChange h)
  case setRuleActive => exact .setRuleActive (leads_of_ofChange h)
  case createVariable => exact .createVariable (leads_of_ofChange h)
  case setVariableActive => exact .setVariableActive (leads_of_ofChange h)
  case deleteVariable => exact .deleteVariable (leads_of_ofChange h)
  case createProfile => exact .createProfile (leads_of_ofChange h)
  case listMatches | showMatch | showLedger | listRules | showRule | listProfiles | showProfile =>
    obtain ⟨_, -, rfl⟩ := ofQuery?_eq_ok.mp h
    exact .nothing _
  all_goals
    obtain ⟨_, -, rfl⟩ := ofQuery_eq_ok.mp h
    exact .nothing _

theorem not_hasStatus_ofCause {refusalStatus : Nat} {cause : Cause} (h : refusalStatus ≠ 200) :
    (Answer.ofCause refusalStatus cause).hasStatus 200 = false := by
  cases cause <;> simp [Answer.ofCause, Answer.detail, Answer.hasStatus, h]

theorem serve_completeMatch {id : Int} {form : Form.CompletionForm} :
    ((completeMatch id form).serve policy isRefused s).1.hasStatus 200 = true ↔
      isRefused = false ∧ ∃ t v, Leads (s.completeMatch id form policy.keepsAutomatic) t ∧
        t.showCompletion id form.facts = some v ∧
        (completeMatch id form).serve policy isRefused s = (.shown 200 v.presentable, t) := by
  unfold serve
  constructor
  · intro h
    cases hrun : (completeMatch id form).run policy isRefused s with
    | error cause =>
      rw [hrun] at h
      simp [not_hasStatus_ofCause, refusalStatus] at h
    | ok o =>
      rw [hrun] at h
      obtain ⟨hr, c, t, a, hc, hw, rfl⟩ := run_completeMatch_eq_ok.mp hrun
      cases hv : t.showCompletion id form.facts with
      | none =>
        simp only [hv] at h
        cases h
      | some v => exact ⟨hr, t, v, ⟨c, a, hc, hw⟩, hv, rfl⟩
  · rintro ⟨-, t, v, -, -, h⟩
    rw [h]
    rfl

theorem serve_of_leads {id : Int} {form : Form.CompletionForm} {t : Store} {v : Value}
    (h : Leads (s.completeMatch id form policy.keepsAutomatic) t)
    (hv : t.showCompletion id form.facts = some v) :
    (completeMatch id form).serve policy false s = (.shown 200 v.presentable, t) := by
  obtain ⟨c, a, hc, hw⟩ := h
  have hrun : (completeMatch id form).run policy false s = .ok { store := t, shown := some v } :=
    run_completeMatch_eq_ok.mpr ⟨rfl, c, t, a, hc, hw, by rw [hv]⟩
  rw [serve, hrun]
  rfl

theorem turns_serve (policy : Policy) (isRefused : Bool) (s : Store) (a : Action) :
    a.Turns policy s (a.serve policy isRefused s).2 := by
  unfold serve
  cases h : a.run policy isRefused s with
  | error cause => exact .nothing a
  | ok o =>
    dsimp only
    cases o.shown <;> exact turns_of_run h

end Action

/-! ## Runs -/

namespace Store

theorem after_append (s : Store) (xs ys : List Arrival) :
    s.after (xs ++ ys) = (s.after xs).after ys := List.foldl_append

theorem allAnswered_append {status : Nat} {s : Store} {xs ys : List Arrival} :
    s.allAnswered status (xs ++ ys) = true ↔
      s.allAnswered status xs = true ∧ (s.after xs).allAnswered status ys = true := by
  induction xs generalizing s with
  | nil => simp [allAnswered, after]
  | cons x rest ih =>
    simp only [List.cons_append, allAnswered, Bool.and_eq_true, ih, and_assoc]
    rfl

theorem reachable_empty : Reachable {} := ⟨[], rfl⟩

theorem Reachable.after {s : Store} (h : s.Reachable) (arrivals : List Arrival) :
    (s.after arrivals).Reachable := by
  obtain ⟨earlier, rfl⟩ := h
  exact ⟨earlier ++ arrivals, (after_append ..).symm⟩

theorem Reachable.served {s : Store} (h : s.Reachable) (x : Arrival) : (s.served x).2.Reachable :=
  h.after [x]

theorem served_of_action {s : Store} {x : Arrival} {a : Action} (h : x.request.action = .ok a) :
    s.served x = a.serve x.policy x.isRefused s := by
  simp only [Store.served, Request.serve, h]

theorem served_cases (s : Store) (x : Arrival) :
    (s.served x).2 = s ∨
      ∃ a : Action, a.IsSubmitted ∧ a.Turns x.policy s (s.served x).2 := by
  unfold Store.served Request.serve
  cases h : x.request.action with
  | error answer => exact .inl rfl
  | ok a => exact .inr ⟨a, Request.isSubmitted_of_action h, a.turns_serve ..⟩

/-- What the empty store has and every operation keeps, every reachable store has. -/
theorem Reachable.induction {P : Store → Prop} (empty : P {})
    (turn : ∀ policy s a t, Reachable s → P s → a.IsSubmitted → Action.Turns policy s a t → P t)
    {s : Store} (h : s.Reachable) : P s := by
  obtain ⟨arrivals, rfl⟩ := h
  -- the run grows at its end
  suffices hrun : ∀ (arrivals : List Arrival) s, Reachable s → P s → P (s.after arrivals) from
    hrun arrivals {} reachable_empty empty
  intro arrivals
  induction arrivals with
  | nil => exact fun _ _ hs => hs
  | cons x rest ih =>
    intro s hr hs
    have hx : P (s.served x).2 := by
      rcases s.served_cases x with h | ⟨a, ha, ht⟩
      · rw [h]; exact hs
      · exact turn _ s a _ hr hs ha ht
    exact ih _ (hr.served x) hx

end Store

end ClubPoints
