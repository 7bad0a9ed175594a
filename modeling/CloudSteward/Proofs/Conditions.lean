import CloudSteward.Condition

/-!
# Setting conditions

Setting a condition touches the conditions of its kind only (`without_set`), makes
the first of them what was set (`says_set_self`), and does nothing if that one says
so already (`set_eq_self`).  The last of these is why published conditions come to
rest: the time of a condition is taken only when its status flips.  Removing the
conditions of a kind leaves the others as well (`get?_unset_of_ne`).  Publishing a
result sets the condition that mirrors it (`says_publish_self`).
-/

namespace CloudSteward.Conditions

/-- The conditions of the other kinds. -/
def without (conditions : Conditions) (kind : ConditionKind) : List Condition :=
  conditions.entries.filter fun condition => condition.kind ≠ kind

/-- Whether the first condition of a kind says this. -/
def Says (conditions : Conditions) (kind : ConditionKind) (status : Bool)
    (reason message : Option String) : Prop :=
  ∃ condition, conditions.get? kind = some condition ∧ condition.status = status ∧
    condition.reason = reason ∧ condition.message = message

variable {conditions : Conditions} {now : Moment} {kind other : ConditionKind} {status : Bool}
  {reason message : Option String}

theorem filter_put_of_ne (condition : Condition) (entries : List Condition)
    (hkind : condition.kind = kind) :
    ((put condition entries).filter fun entry => entry.kind ≠ kind) =
      entries.filter fun entry => entry.kind ≠ kind := by
  induction entries with
  | nil => simp [put, hkind]
  | cons first rest ih =>
      simp only [put]
      split
      case isTrue hfirst => simp [hkind, hfirst]
      case isFalse => rw [List.filter_cons, List.filter_cons, ih]

/-- Since when a condition has had its status, if it is given one now. -/
def sinceOf (old : Option Condition) (status : Bool) (now : Moment) : Moment :=
  match old with
  | some old => if old.status = status then old.since else now
  | none => now

theorem find?_put_self (condition : Condition) (entries : List Condition) :
    (put condition entries).find? (fun entry => entry.kind = condition.kind) =
      some { condition with
        since := sinceOf (entries.find? fun entry => entry.kind = condition.kind) condition.status
          condition.since } := by
  induction entries with
  | nil => simp [put, sinceOf]
  | cons first rest ih =>
      simp only [put]
      split
      case isTrue hfirst =>
        rw [List.find?_cons_of_pos (by simp), List.find?_cons_of_pos (by simpa using hfirst)]
        rfl
      case isFalse hfirst =>
        rw [List.find?_cons_of_neg (by simpa using hfirst), ih,
          List.find?_cons_of_neg (by simpa using hfirst)]

theorem find?_put_of_ne (condition : Condition) (entries : List Condition)
    (hkind : condition.kind ≠ other) :
    (put condition entries).find? (fun entry => entry.kind = other) =
      entries.find? fun entry => entry.kind = other := by
  induction entries with
  | nil => simp [put, hkind]
  | cons first rest ih =>
      simp only [put]
      split
      case isTrue hfirst =>
        rw [List.find?_cons_of_neg (by simpa using hkind),
          List.find?_cons_of_neg (by simpa [hfirst] using hkind)]
      case isFalse => rw [List.find?_cons, List.find?_cons, ih]

/-- A condition that says what is put already keeps its time, and so stays as it is. -/
theorem put_eq_self {condition old : Condition} {entries : List Condition}
    (hold : entries.find? (fun entry => entry.kind = condition.kind) = some old)
    (hstatus : old.status = condition.status) (hreason : old.reason = condition.reason)
    (hmessage : old.message = condition.message) : put condition entries = entries := by
  induction entries with
  | nil => cases hold
  | cons first rest ih =>
      simp only [put]
      split
      case isTrue hfirst =>
        rw [List.find?_cons_of_pos (by simpa using hfirst)] at hold
        obtain rfl := Option.some.inj hold
        rw [if_pos hstatus, ← hfirst, ← hstatus, ← hreason, ← hmessage]
      case isFalse hfirst =>
        rw [List.find?_cons_of_neg (by simpa using hfirst)] at hold
        rw [ih hold]

theorem without_set : (conditions.set now kind status reason message).without kind =
    conditions.without kind :=
  filter_put_of_ne _ _ rfl

theorem get?_set_self : (conditions.set now kind status reason message).get? kind =
    some { kind, status, reason, message, since := sinceOf (conditions.get? kind) status now } :=
  find?_put_self { kind, status, reason, message, since := now } conditions.entries

theorem says_set_self : (conditions.set now kind status reason message).Says kind status reason
    message :=
  ⟨_, get?_set_self, rfl, rfl, rfl⟩

theorem get?_set_of_ne (hkind : kind ≠ other) :
    (conditions.set now kind status reason message).get? other = conditions.get? other :=
  find?_put_of_ne _ _ hkind

/-- What the conditions of one kind say does not depend on those of another. -/
theorem says_set_of_ne_iff {since : Moment} {otherStatus : Bool}
    {otherReason otherMessage : Option String} (hkind : kind ≠ other) :
    (conditions.set since kind otherStatus otherReason otherMessage).Says other status reason
        message ↔ conditions.Says other status reason message := by
  unfold Says
  rw [get?_set_of_ne hkind]

theorem set_eq_self (h : conditions.Says kind status reason message) :
    conditions.set now kind status reason message = conditions := by
  obtain ⟨old, hold, hstatus, hreason, hmessage⟩ := h
  have hput : put { kind, status, reason, message, since := now } conditions.entries =
      conditions.entries := put_eq_self hold hstatus hreason hmessage
  unfold set
  rw [hput]

/-! ## Removing conditions -/

theorem get?_unset_of_ne (hkind : kind ≠ other) :
    (conditions.unset kind).get? other = conditions.get? other := by
  unfold unset get?
  induction conditions.entries with
  | nil => rfl
  | cons first rest ih =>
      by_cases hfirst : first.kind = kind
      · have hother : first.kind ≠ other := fun heq => hkind (hfirst.symm.trans heq)
        rw [List.filter_cons_of_neg (by simpa using hfirst),
          List.find?_cons_of_neg (by simpa using hother)]
        exact ih
      · rw [List.filter_cons_of_pos (by simpa using hfirst), List.find?_cons, List.find?_cons, ih]

theorem says_unset_of_ne_iff (hkind : kind ≠ other) :
    (conditions.unset kind).Says other status reason message ↔
      conditions.Says other status reason message := by
  unfold Says
  rw [get?_unset_of_ne hkind]

theorem get?_unset_self : (conditions.unset kind).get? kind = none := by
  unfold unset get?
  rw [List.find?_eq_none]
  intro condition hcondition
  simpa using (List.mem_filter.mp hcondition).2

theorem without_unset : (conditions.unset kind).without kind = conditions.without kind := by
  unfold unset without
  simp only [List.filter_filter, Bool.and_self]

theorem unset_unset : (conditions.unset kind).unset kind = conditions.unset kind := by
  unfold unset
  simp only [List.filter_filter, Bool.and_self]

/-! ## Publishing a result -/

section Publish

variable {result : PassResult}

theorem without_publish : (conditions.publish now kind result).without kind =
    conditions.without kind := by
  unfold publish
  split <;> exact without_set

theorem get?_publish_of_ne (hkind : kind ≠ other) :
    (conditions.publish now kind result).get? other = conditions.get? other := by
  unfold publish
  split <;> exact get?_set_of_ne hkind

/-- The condition mirrors the result, and of one that is not fine it tells the reason and
the message. -/
theorem says_publish_self : (conditions.publish now kind result).Says kind result.isOk
    (if result.isOk then none else result.reason.map Reason.text)
    (if result.isOk then shown result.message else some result.message) := by
  unfold publish
  cases result.isOk with
  | true => exact says_set_self
  | false => exact says_set_self

/-- What the condition says of a result that is not fine. -/
theorem says_publish_of_not_isOk (hresult : result.isOk = false) :
    (conditions.publish now kind result).Says kind result.isOk (result.reason.map Reason.text)
      (some result.message) := by
  unfold publish
  rw [hresult]
  exact says_set_self

theorem Says.get?_ne_none (h : conditions.Says kind status reason message) :
    conditions.get? kind ≠ none := by
  obtain ⟨condition, hget, _⟩ := h
  rw [hget]
  exact Option.some_ne_none condition

theorem Says.isTrue_eq (h : conditions.Says kind status reason message) :
    conditions.isTrue kind = status := by
  obtain ⟨condition, hget, hstatus, _⟩ := h
  unfold isTrue
  rw [hget]
  exact hstatus

theorem isTrue_publish_self : (conditions.publish now kind result).isTrue kind = result.isOk :=
  says_publish_self.isTrue_eq

end Publish

end CloudSteward.Conditions
