import ClubPoints.Proofs.Rejection
import ClubPoints.Proofs.StoredRules

/-!
# The default profile of a club

Nothing but the operations themselves keeps a club from having several default profiles. A new
default takes the mark from the club's others (`NewDefault`), and nothing else touches the marks
(`marks_kept`).
-/

namespace ClubPoints

open Form

theorem Action.leads_of_createProfile {policy : Policy} {isRefused : Bool} {s : Store}
    {form : ProfileForm}
    (h : ((createProfile form).serve policy isRefused s).1.isSuccess = true) :
    Store.Leads (s.createProfile form) ((createProfile form).serve policy isRefused s).2 := by
  unfold serve at h ⊢
  cases hrun : (createProfile form).run policy isRefused s with
  | error cause =>
    rw [hrun] at h
    have hfailed : (Answer.ofCause 400 cause).isSuccess = false :=
      Answer.isSuccess_ofCause (by decide) cause
    exact absurd (hfailed.symm.trans h) Bool.false_ne_true
  | ok o =>
    have hleads : Store.Leads (s.createProfile form) o.store := Outcome.leads_of_ofChange hrun
    dsimp only
    cases o.shown <;> exact hleads

namespace Store

variable {s t : Store} {form : ProfileForm} {p : ProfileRecord} {clubId : Int}

def defaultsOf (s : Store) (clubId : Int) : List ProfileRecord :=
  s.profiles.filter fun p => p.clubId == clubId && p.isClubDefault

theorem defaultsOf_eq (s : Store) (clubId : Int) :
    s.defaultsOf clubId =
      (s.profiles.filter ProfileRecord.isClubDefault).filter fun p => p.clubId == clubId := by
  rw [List.filter_filter]
  rfl

theorem clubDefault?_eq (s : Store) (clubId : Int) :
    s.clubDefault? clubId = (s.defaultsOf clubId).find? ProfileRecord.isActive := by
  unfold clubDefault? defaultsOf
  rw [List.find?_filter]
  congr 1
  funext p
  rw [Bool.eq_iff_iff]
  simp

theorem defaultsOf_clearDefault (s : Store) (clubId : Int) :
    (s.clearDefault clubId).defaultsOf clubId = [] := by
  apply List.filter_eq_nil_iff.mpr
  intro q hq
  obtain ⟨x, -, rfl⟩ := List.mem_map.mp hq
  by_cases hx : x.clubId = clubId <;> simp [hx]

theorem defaultsOf_clearDefault_of_ne {other : Int} (h : other ≠ clubId) :
    (s.clearDefault clubId).defaultsOf other = s.defaultsOf other := by
  unfold defaultsOf clearDefault
  dsimp only
  induction s.profiles with
  | nil => rfl
  | cons q rest ih =>
    rw [List.map_cons, List.filter_cons, List.filter_cons, ih]
    by_cases hq : q.clubId = clubId
    · simp [hq, Ne.symm h]
    · simp [hq]

/-! ## A new profile -/

/-- A profile has become the default of its club: it is the only one, and it is the one that the
club's matches are scored by. All else stays, but for the marks of the club's other profiles. -/
structure NewDefault (s : Store) (form : ProfileForm) (p : ProfileRecord) (t : Store) : Prop where
  row : p = newProfile form p.id
  fresh : ∀ q ∈ s.profiles, q.id ≠ p.id
  only : t.defaultsOf form.clubId = [p]
  scored : t.clubDefault? form.clubId = some p
  others : ∀ clubId, clubId ≠ form.clubId → t.defaultsOf clubId = s.defaultsOf clubId
  kept : t.profiles.filter (fun q => q.id != p.id) =
    s.profiles.map fun q => if q.clubId = form.clubId then { q with isClubDefault := false } else q
  rules : ∃ added : List ProfileRuleRecord, t.profileRules.Perm (added ++ s.profileRules) ∧
    ∀ r ∈ added, r.profileId = p.id
  elsewhere : t = { s with profiles := t.profiles, profileRules := t.profileRules }

theorem map_id_beforeProfile (s : Store) (form : ProfileForm) :
    (s.beforeProfile form).profiles.map ProfileRecord.id = s.profiles.map ProfileRecord.id := by
  unfold beforeProfile
  by_cases hdefault : form.isClubDefault = true <;> simp [hdefault, map_id_clearDefault]

theorem createProfile_stored (h : Leads (s.createProfile form) t) :
    ∃ p, p = newProfile form p.id ∧ (∀ q ∈ s.profiles, q.id ≠ p.id) ∧
      t.profiles = placed (s.beforeProfile form).profiles p ∧
      (∃ added : List ProfileRuleRecord, t.profileRules.Perm (added ++ s.profileRules) ∧
        List.Forall₂ (fun item r => r.profileId = p.id ∧ r.ruleId = item.ruleId) form.rules added) ∧
      t = { s with profiles := t.profiles, profileRules := t.profileRules } := by
  obtain ⟨p, added, u, hnew, hprofile, hrules⟩ := createProfile_leads h
  obtain ⟨-, -, hfresh, -⟩ := fault?_eq_none.mp hprofile.sound
  refine ⟨p, ?_, ?_, ?_, ⟨added, ?_, ?_⟩, ?_⟩
  · rw [hnew]
    rfl
  · -- losing its mark leaves a profile its number
    intro q hq hid
    have hmem : p.id ∈ (s.beforeProfile form).profiles.map ProfileRecord.id := by
      rw [map_id_beforeProfile, ← hid]
      exact List.mem_map_of_mem hq
    obtain ⟨x, hx, hxp⟩ := List.mem_map.mp hmem
    exact hfresh x hx hxp
  · rw [hrules.store, hprofile.store]
    rfl
  · have hrows : t.profileRules = placedAll s.profileRules added := by
      rw [hrules.store, hprofile.store, s.beforeProfile_frame form]
      rfl
    have hperm := perm_placedAll s.profileRules added
    rw [hrows]
    simpa [Table.kept] using hperm
  · refine (List.forall₂_map_left_iff.mp hrules.numbers).imp fun item r hr => ?_
    obtain ⟨n, rfl⟩ := hr
    exact ⟨rfl, rfl⟩
  · rw [hrules.store, hprofile.store, s.beforeProfile_frame form]
    rfl

theorem newDefault (h : Leads (s.createProfile form) t) (hdefault : form.isClubDefault = true) :
    ∃ p, s.NewDefault form p t := by
  obtain ⟨p, hnew, hfresh, hprofiles, ⟨added, hperm, hadded⟩, helsewhere⟩ := createProfile_stored h
  rw [beforeProfile, if_pos hdefault] at hprofiles
  have hclub : p.clubId = form.clubId := by rw [hnew]; rfl
  have hmarked : p.isClubDefault = true := by rw [hnew]; exact hdefault
  have hactive : p.isActive = true := by rw [hnew]; rfl
  -- the marks of the club were taken away before the new profile came
  have honly : t.defaultsOf form.clubId = [p] := by
    have hperm := (perm_placed (s.clearDefault form.clubId).profiles p).filter fun q =>
      q.clubId == form.clubId && q.isClubDefault
    rw [← hprofiles, List.filter_cons_of_pos (by simp [Table.kept, hclub, hmarked])] at hperm
    change (t.defaultsOf form.clubId).Perm (p :: (s.clearDefault form.clubId).defaultsOf _) at hperm
    rw [defaultsOf_clearDefault] at hperm
    exact List.perm_singleton.mp hperm
  have hrules : ∀ r ∈ added, r.profileId = p.id := by
    intro r hr
    obtain ⟨_, -, hprofile, -⟩ := exists_of_forall₂ hadded r hr
    exact hprofile
  refine ⟨p, hnew, hfresh, honly, ?_, ?_, ?_, ⟨added, hperm, hrules⟩, helsewhere⟩
  · rw [clubDefault?_eq, honly]
    simp [hactive]
  · intro clubId hother
    have hothers := defaultsOf_clearDefault_of_ne (s := s) hother
    rw [← hothers, defaultsOf, hprofiles,
      filter_placed (by simp [Table.kept, hclub, Ne.symm hother])]
    rfl
  · have hkept : ∀ q ∈ (s.clearDefault form.clubId).profiles, (q.id != p.id) = true := by
      intro q hq
      obtain ⟨x, hx, rfl⟩ := List.mem_map.mp hq
      by_cases hxc : x.clubId = form.clubId <;> simpa [hxc] using hfresh x hx
    rw [hprofiles, filter_placed (by simp [Table.kept]), List.filter_eq_self.mpr hkept]
    rfl

theorem marks_kept (h : Leads (s.createProfile form) t) (hdefault : form.isClubDefault = false) :
    (∀ q ∈ s.profiles, q ∈ t.profiles) ∧
      t.profiles.filter ProfileRecord.isClubDefault =
        s.profiles.filter ProfileRecord.isClubDefault := by
  obtain ⟨p, hnew, -, hprofiles, -, -⟩ := createProfile_stored h
  have hunmarked : p.isClubDefault = false := by rw [hnew]; exact hdefault
  rw [beforeProfile, if_neg (by simp [hdefault])] at hprofiles
  rw [hprofiles]
  constructor
  · intro q hq
    exact mem_placed.mpr (.inr hq)
  · exact filter_placed hunmarked

/-! ## Requests and runs -/

theorem served_marks_kept (hs : s.Reachable) {x : Arrival}
    (hx : (s.served x).1.isSuccess = true → ∀ form, x.request.action = .ok (.createProfile form) →
      form.isClubDefault = false) :
    (∀ q ∈ s.profiles, q ∈ (s.served x).2.profiles) ∧
      (s.served x).2.profiles.filter ProfileRecord.isClubDefault =
        s.profiles.filter ProfileRecord.isClubDefault := by
  have hsame {t : Store} (h : t.profiles = s.profiles) :
      (∀ q ∈ s.profiles, q ∈ t.profiles) ∧ t.profiles.filter ProfileRecord.isClubDefault =
        s.profiles.filter ProfileRecord.isClubDefault := by
    rw [h]
    exact ⟨fun _ hq => hq, rfl⟩
  cases hsuccess : (s.served x).1.isSuccess with
  | false =>
    apply hsame
    rw [served_of_failure hs hsuccess]
  | true =>
    cases haction : x.request.action with
    | error answer =>
      apply hsame
      unfold served Request.serve
      rw [haction]
    | ok a =>
      have ht : a.Turns x.policy s (s.served x).2 := by
        rw [served_of_action haction]
        exact a.turns_serve x.policy x.isRefused s
      rcases ht.touched.profiles with ⟨hprofiles, -⟩ | ⟨form, rfl, hleads⟩
      · exact hsame hprofiles
      · exact marks_kept hleads (hx hsuccess form haction)

theorem Reachable.defaults_le_one (h : s.Reachable) (clubId : Int) :
    (s.defaultsOf clubId).length ≤ 1 := by
  apply h.induction (P := fun s => (s.defaultsOf clubId).length ≤ 1)
  · simp [defaultsOf]
  · intro _ s a t _ hs _ ht
    rcases ht.touched.profiles with ⟨hprofiles, -⟩ | ⟨form, -, hleads⟩
    · rw [defaultsOf, hprofiles]
      exact hs
    · cases hdefault : form.isClubDefault with
      | false =>
        rw [defaultsOf_eq, (marks_kept hleads hdefault).2, ← defaultsOf_eq]
        exact hs
      | true =>
        obtain ⟨p, hp⟩ := newDefault hleads hdefault
        by_cases hclub : clubId = form.clubId
        · rw [hclub, hp.only]
          simp
        · rw [hp.others clubId hclub]
          exact hs

/-- A club that has a default goes on having one. -/
theorem default_stays (hs : s.Reachable) (x : Arrival) (h : s.defaultsOf clubId ≠ []) :
    (s.served x).2.defaultsOf clubId ≠ [] := by
  by_cases hx : (s.served x).1.isSuccess = true → ∀ form,
      x.request.action = .ok (.createProfile form) → form.isClubDefault = false
  · rw [defaultsOf_eq, (served_marks_kept hs hx).2, ← defaultsOf_eq]
    exact h
  · simp only [not_forall, Bool.not_eq_false] at hx
    obtain ⟨hsuccess, form, haction, hdefault⟩ := hx
    rw [served_of_action haction] at hsuccess ⊢
    obtain ⟨p, hp⟩ := newDefault (Action.leads_of_createProfile hsuccess) hdefault
    by_cases hclub : clubId = form.clubId
    · rw [hclub, hp.only]
      simp
    · rw [hp.others clubId hclub]
      exact h

/-- A club has at most one default profile, and from its first one on exactly one. A new default is
the only one of its club; nothing else touches the marks. -/
theorem one_club_default (hs : s.Reachable) :
    (∀ clubId, (s.defaultsOf clubId).length ≤ 1) ∧
    (∀ (x : Arrival) (form : ProfileForm), x.request.action = .ok (.createProfile form) →
      form.isClubDefault = true → (s.served x).1.isSuccess = true →
        ∃ p, s.NewDefault form p (s.served x).2) ∧
    (∀ x : Arrival, ((s.served x).1.isSuccess = true → ∀ form,
        x.request.action = .ok (.createProfile form) → form.isClubDefault = false) →
      (∀ q ∈ s.profiles, q ∈ (s.served x).2.profiles) ∧
        (s.served x).2.profiles.filter ProfileRecord.isClubDefault =
          s.profiles.filter ProfileRecord.isClubDefault) ∧
    ∀ clubId, s.defaultsOf clubId ≠ [] → ∀ arrivals,
      ((s.after arrivals).defaultsOf clubId).length = 1 := by
  refine ⟨hs.defaults_le_one, ?_, fun x hx => served_marks_kept hs hx, ?_⟩
  · intro x form haction hdefault hsuccess
    rw [served_of_action haction] at hsuccess ⊢
    exact newDefault (Action.leads_of_createProfile hsuccess) hdefault
  · intro clubId h arrivals
    have hstays : (s.after arrivals).defaultsOf clubId ≠ [] := by
      induction arrivals generalizing s with
      | nil => exact h
      | cons x rest ih => exact ih (hs.served x) (default_stays hs x h)
    have hle := (hs.after arrivals).defaults_le_one clubId
    have hpos := List.length_pos_iff.mpr hstays
    omega

theorem one_club_default_season :
    (∃ p, (after {} season).NewDefault otherDefault p
        ((after {} season).served (.posting "/profiles/" otherDefault.document)).2) ∧
      ((after {} season).served { Arrival.posting "/profiles/" otherDefault.document with
          isRefused := true }).2.profiles.filter ProfileRecord.isClubDefault =
        (after {} season).profiles.filter ProfileRecord.isClubDefault ∧
      ∀ arrivals, (((after {} season).after arrivals).defaultsOf 1).length = 1 := by
  obtain ⟨-, hnew, hkept, hone⟩ := one_club_default (s := after {} season) ⟨season, rfl⟩
  refine ⟨hnew _ otherDefault rfl rfl (by decide +kernel), (hkept _ ?_).2, hone 1 ?_⟩
  · intro hsuccess
    exact absurd hsuccess (by decide +kernel)
  · have hlength : ((after {} season).defaultsOf 1).length = 1 := by decide +kernel
    apply List.ne_nil_of_length_pos
    omega

end Store

end ClubPoints
