import ClubPoints.Award
import ClubPoints.Proofs.Outcomes

/-!
# Conditions that are met

What a condition says of the facts of its scope, apart from the steps in which it is judged. A
judgement that was reached is the right one (`Condition.allHold_eq_ok`), and conditions that all
held can all be put into words (`Condition.exists_describe`).
-/

namespace ClubPoints

/-- Whether two values stand in a relation. Those without order are only ever equal or unequal; of
the others both have to be numbers. -/
def Operator.relates (op : Operator) (actual expected : Value) : Bool :=
  if actual.isUnordered || expected.isUnordered then op.holdsOfEquality (actual.same expected)
  else
    match actual.toReal.toOption, expected.toReal.toOption with
    | some x, some y => op.holdsOfReals x y
    | _, _ => false

theorem Value.operand?_eq_ok {v : Value} {x : Option Binary64} (h : v.operand? = .ok x) :
    x = v.toReal.toOption := by
  unfold Value.operand? at h
  split at h
  · rename_i hx; cases h; rw [hx]; rfl
  · cases h
  · rename_i hx; cases h; rw [hx]; rfl

theorem Operator.compare_eq_ok {op : Operator} {actual expected : Value} {b : Bool}
    (h : op.compare actual expected = .ok b) : b = op.relates actual expected := by
  unfold Operator.compare at h
  unfold Operator.relates
  split at h
  · cases h; rename_i hu; rw [if_pos hu]
  · rename_i hu
    rw [if_neg hu]
    obtain ⟨x, hx, h⟩ := bind_eq_ok.mp h
    rw [← Value.operand?_eq_ok hx]
    cases x with
    | none => cases h; rfl
    | some x =>
      obtain ⟨y, hy, h⟩ := bind_eq_ok.mp h
      rw [← Value.operand?_eq_ok hy]
      cases y <;> cases h <;> rfl

namespace Condition

variable {c : Condition} {cs : List Condition} {r : Registry} {fact : String → Value}
  {s : Situation}

/-! ## What a condition says -/

/-- What the variable is compared with. The literal for a position is a code, and what is no code
stands for a midfielder. -/
def comparand (c : Condition) (r : Registry) (fact : String → Value) : Value :=
  match c.other? with
  | some key => r.lookup key c.scope fact
  | none =>
    if c.key = "position" then .position ((Position.decode c.value).toOption.getD .fallback)
    else c.value

def isMet (c : Condition) (r : Registry) (fact : String → Value) : Bool :=
  c.resolves r && c.operator.relates (r.lookup c.key c.scope fact) (c.comparand r fact)

def wording (c : Condition) (r : Registry) (fact : String → Value) : String :=
  let symbol := c.operator.symbol
  let actual := (r.lookup c.key c.scope fact).display
  let compared := (c.comparand r fact).display
  match c.other? with
  | some other => s!"{c.key} {symbol} {other} ({actual} {symbol} {compared})"
  | none => s!"{c.key} {symbol} {compared} (actual: {actual})"

def isMetIn (c : Condition) (s : Situation) : Bool :=
  (s.facts? c.scope).any fun fact => c.isMet s.registry fact

theorem wording_ne_empty (c : Condition) (r : Registry) (fact : String → Value) :
    c.wording r fact ≠ "" := by
  intro h
  have hlength := congrArg String.length h
  unfold wording at hlength
  dsimp only at hlength
  split at hlength <;> simp [String.length_append, toString] at hlength

/-! ## Judging -/

theorem expected_eq_ok {v : Value} (h : c.expected r fact = .ok v) : v = c.comparand r fact := by
  unfold expected at h
  unfold comparand
  cases hother : c.other? with
  | some key =>
    rw [hother] at h
    cases h
    rfl
  | none =>
    rw [hother] at h
    dsimp only at h ⊢
    split at h
    · rename_i hkey
      obtain ⟨p, hp, rfl⟩ := map_eq_ok.mp h
      rw [if_pos hkey, hp]
      rfl
    · rename_i hkey
      cases h
      rw [if_neg hkey]

theorem operands?_eq_ok {o : Option (Value × Value)} (hfact : s.facts? c.scope = some fact)
    (h : c.operands? s = .ok o) :
    o = if c.resolves s.registry then
      some (s.registry.lookup c.key c.scope fact, c.comparand s.registry fact) else none := by
  unfold operands? at h
  rw [hfact] at h
  dsimp only at h
  split at h
  · rename_i hresolves
    obtain ⟨v, hv, h⟩ := bind_eq_ok.mp h
    cases h
    rw [if_pos hresolves, expected_eq_ok hv]
  · rename_i hresolves
    cases h
    rw [if_neg hresolves]

theorem holds_eq_ok {b : Bool} (h : c.holds s = .ok b) : b = c.isMetIn s := by
  unfold holds at h
  obtain ⟨o, ho, h⟩ := bind_eq_ok.mp h
  unfold isMetIn
  cases hfact : s.facts? c.scope with
  | none =>
    rw [operands?, hfact] at ho
    cases ho
    cases h
    rfl
  | some fact =>
    rw [Option.any_some, isMet]
    rw [operands?_eq_ok hfact ho] at h
    cases hresolves : c.resolves s.registry with
    | false =>
      rw [hresolves] at h
      cases h
      rfl
    | true =>
      rw [hresolves] at h
      exact Operator.compare_eq_ok h

theorem allHold_eq_ok {b : Bool} (h : allHold s cs = .ok b) :
    b = cs.all fun c => c.isMetIn s := by
  induction cs with
  | nil => cases h; rfl
  | cons c rest ih =>
    obtain ⟨first, hfirst, h⟩ := bind_eq_ok.mp h
    rw [List.all_cons, ← holds_eq_ok hfirst]
    cases first with
    | false => cases h; rfl
    | true => exact ih h

/-! ## Putting into words -/

theorem describe_eq_ok {text : String} (hfact : s.facts? c.scope = some fact)
    (hresolves : c.resolves s.registry = true) (h : c.describe s = .ok text) :
    text = c.wording s.registry fact := by
  unfold describe at h
  obtain ⟨o, ho, h⟩ := bind_eq_ok.mp h
  rw [operands?_eq_ok hfact ho, if_pos hresolves] at h
  dsimp only at h
  unfold wording
  cases hother : c.other? with
  | some other =>
    rw [hother] at h
    exact (Except.ok.inj h).symm
  | none =>
    rw [hother] at h
    exact (Except.ok.inj h).symm

theorem exists_describe_of_holds {b : Bool} (h : c.holds s = .ok b) :
    ∃ text, c.describe s = .ok text := by
  obtain ⟨o, ho, -⟩ := bind_eq_ok.mp h
  unfold describe
  rw [ho]
  cases o with
  | none => exact ⟨_, rfl⟩
  | some operands =>
    obtain ⟨actual, expected⟩ := operands
    cases c.other? with
    | none => exact ⟨_, rfl⟩
    | some other => exact ⟨_, rfl⟩

theorem exists_describe (h : allHold s cs = .ok true) :
    ∃ texts, cs.mapM (fun c => c.describe s) = .ok texts := by
  refine mapM_total fun c hc => ?_
  induction cs with
  | nil => cases hc
  | cons first rest ih =>
    obtain ⟨b, hb, h⟩ := bind_eq_ok.mp h
    cases b with
    | false => cases h
    | true =>
      rcases List.mem_cons.mp hc with rfl | hc
      · exact exists_describe_of_holds hb
      · exact ih h hc

end Condition

end ClubPoints
