import CloudSteward.Proofs.Applied
import CloudSteward.Proofs.Integrations.Report
import CloudSteward.Proofs.Parallel

/-!
# The two spellings of integrations

A specification can ask for integrations in two ways, of which one is deprecated (`Spells`).
A pass reads them by `ProjectSpec.declared` wherever it compares them: in deletion protection,
of the project as well as of what is on record (`permitsProject_eq_of_recordsAlike`), when it
looks for something to do, and in linking.  So a project in either spelling is driven through
the same calls (`alike_ensure`).

Only the report of a pass that is fine asks for the spelling itself.  Then the deprecated one
comes with a warning and with a notice in the condition about integrations, and everything
else is as it is with the other (`noticed_aligned`).
-/

namespace CloudSteward

/-! ## Spellings -/

namespace ProjectSpec

/-- The two ways to ask for some integrations. -/
inductive Spells (integrations : List Integration) : ProjectSpec → Prop where
  | deprecated (name : String) (ignored : List Integration) : integrations ≠ [] →
      Spells integrations { name, accessRoles := integrations, integrations := ignored }
  | current (name : String) : Spells integrations { name, accessRoles := [], integrations }

theorem Spells.declared_eq {integrations : List Integration} {spec : ProjectSpec}
    (h : Spells integrations spec) : spec.declared = integrations := by
  cases h with
  | deprecated name ignored hused => simp [declared, usesAccessRoles, hused]
  | current name => rfl

end ProjectSpec

/-- What was applied last is the same, or is the same list in any of the two spellings. -/
def Metadata.RecordsAlike (first second : Metadata) : Prop :=
  first.applied ProjectSpec.codec = second.applied ProjectSpec.codec ∨
    ∃ integrations one two, ProjectSpec.Spells integrations one ∧
      ProjectSpec.Spells integrations two ∧
      first.applied ProjectSpec.codec = .ok (some one) ∧
      second.applied ProjectSpec.codec = .ok (some two)

/-- The project with these lists of integrations, the deprecated one first. -/
def Project.asking (project : Project) (accessRoles integrations : List Integration) : Project :=
  { project with spec := { project.spec with accessRoles, integrations } }

/-- Deletion protection does not see the spelling, neither of what is declared nor of what is
on record. -/
theorem Ownership.permitsProject_eq_of_recordsAlike {first second : Project}
    (hrecords : first.metadata.RecordsAlike second.metadata)
    (hdeclared : first.spec.declared = second.spec.declared) (guarded : Bool)
    (remote : List Role) :
    permitsProject guarded first remote = permitsProject guarded second remote := by
  unfold permitsProject
  rcases hrecords with hsame | ⟨integrations, one, two, hone, htwo, hfirst, hsecond⟩
  · rw [hsame, hdeclared]
  · rw [hfirst, hsecond, hdeclared]
    simp only [hone.declared_eq, htwo.declared_eq]

/-! ## Conditions -/

/-- Conditions that differ in the message at most, and not in that if they are of another
kind. -/
structure Condition.Reworded (kind : ConditionKind) (first second : Condition) : Prop where
  kind_eq : first.kind = second.kind
  status_eq : first.status = second.status
  reason_eq : first.reason = second.reason
  since_eq : first.since = second.since
  message_eq : first.kind ≠ kind → first.message = second.message

namespace Conditions

variable {kind : ConditionKind}

theorem forall₂_reworded_self (entries : List Condition) :
    List.Forall₂ (Condition.Reworded kind) entries entries :=
  List.forall₂_same.mpr fun _ _ => ⟨rfl, rfl, rfl, rfl, fun _ => rfl⟩

/-- Conditions that differ only in their message are put in the same place. -/
theorem forall₂_reworded_put {first second : Condition} (h : first.Reworded kind second)
    (entries : List Condition) :
    List.Forall₂ (Condition.Reworded kind) (put first entries) (put second entries) := by
  induction entries with
  | nil => exact .cons h .nil
  | cons old rest ih =>
      unfold put
      rw [← h.kind_eq, ← h.status_eq, ← h.since_eq]
      by_cases hold : old.kind = first.kind
      · rw [if_pos hold, if_pos hold]
        exact .cons ⟨rfl, rfl, h.reason_eq, rfl, h.message_eq⟩ (forall₂_reworded_self rest)
      · rw [if_neg hold, if_neg hold]
        exact .cons ⟨rfl, rfl, rfl, rfl, fun _ => rfl⟩ ih

theorem forall₂_reworded_confirm (conditions : Conditions) (now : Moment)
    (message other : String) :
    List.Forall₂ (Condition.Reworded kind) (conditions.confirm now kind message).entries
      (conditions.confirm now kind other).entries := by
  unfold confirm set
  refine forall₂_reworded_put ?_ conditions.entries
  exact ⟨rfl, rfl, rfl, rfl, fun hne => absurd rfl hne⟩

end Conditions

/-! ## Passes -/

namespace Integrations

open MemoryCloud Ownership

variable {now : Moment} {guarded : Bool} {conditions : Conditions}

/-- How the end of a pass in the deprecated spelling differs from the end of the same pass in
the current one: by a warning and a notice, and that only if the pass is fine. -/
structure Noticed (deprecated current : Ensured) : Prop where
  statuses_eq : deprecated.statuses = current.statuses
  outcome_eq : deprecated.result.outcome = current.result.outcome
  retryable_eq : deprecated.result.retryable = current.result.retryable
  conditions : List.Forall₂ (Condition.Reworded .cloudProviderIntegrationReady)
    deprecated.conditions.entries current.conditions.entries
  same_unless_isOk : current.result.isOk = false → deprecated = current
  noticed : current.result.isOk = true →
    deprecated.result.warning = true ∧
      deprecated.conditions.Says .cloudProviderIntegrationReady true none
        (some Progress.deprecationNotice) ∧
      current.result.warning = false ∧
      current.conditions.Says .cloudProviderIntegrationReady true none none

theorem noticed_self {ensured : Ensured} (hresult : ensured.result.isOk = false) :
    Noticed ensured ensured where
  statuses_eq := rfl
  outcome_eq := rfl
  retryable_eq := rfl
  conditions := Conditions.forall₂_reworded_self _
  same_unless_isOk _ := rfl
  noticed hok := absurd (hresult.symm.trans hok) Bool.false_ne_true

/-- The same statuses are reported alike in both spellings. -/
theorem noticed_aligned {first second : Project} (hfirst : first.spec.usesAccessRoles = true)
    (hsecond : second.spec.usesAccessRoles = false) (statuses : List Status) :
    Noticed (aligned now first conditions statuses) (aligned now second conditions statuses) := by
  unfold aligned Progress.publish
  rw [hfirst, hsecond]
  cases Progress.ofStatuses statuses with
  | failed => exact noticed_self rfl
  | pending => exact noticed_self rfl
  | allAuthorized =>
      exact
        { statuses_eq := rfl
          outcome_eq := rfl
          retryable_eq := rfl
          conditions := Conditions.forall₂_reworded_confirm conditions now _ _
          same_unless_isOk := fun hfalse => absurd hfalse.symm Bool.false_ne_true
          noticed := fun _ =>
            ⟨rfl, Conditions.says_set_self, rfl, Conditions.says_set_self⟩ }

/-- A project in either spelling is driven through the same calls. -/
theorem alike_ensure {first second : Project} (hstatus : first.status = second.status)
    (hdeclared : first.spec.declared = second.spec.declared)
    (hrecords : first.metadata.RecordsAlike second.metadata)
    (hfirst : first.spec.usesAccessRoles = true) (hsecond : second.spec.usesAccessRoles = false) :
    Program.Alike (fun _ => True) Noticed (ensure now first guarded conditions)
      (ensure now second guarded conditions) := by
  -- The deprecated spelling counts only if there is something in it, so there is work to do.
  have hnonempty : first.spec.declared.isEmpty = false := by
    unfold ProjectSpec.declared
    rw [if_pos hfirst]
    simpa [ProjectSpec.usesAccessRoles] using hfirst
  have hsome : hasNone first = false ∧ hasNone second = false := by
    unfold hasNone
    rw [← hdeclared, hnonempty]
    exact ⟨rfl, rfl⟩
  have hpermits := Ownership.permitsProject_eq_of_recordsAlike hrecords hdeclared
  obtain ⟨metadata, spec, status⟩ := first
  obtain ⟨other, current, status⟩ := second
  obtain rfl := hstatus
  have halign (remote : List Role) :
      Program.Alike (fun _ => True) Noticed
        (align now ⟨metadata, spec, status⟩ conditions remote)
        (align now ⟨other, current, status⟩ conditions remote) := by
    unfold align
    rw [hdeclared]
    refine (Program.alike_self _).bind ?_
    rintro statuses _ rfl
    exact .done (noticed_aligned hfirst hsecond statuses)
  unfold ensure
  cases guarded with
  | true =>
      refine .perform_bind trivial fun reply => ?_
      cases reply with
      | error error => exact .done (noticed_self rfl)
      | ok remote =>
          simp only [hpermits true remote, hsome]
          cases Ownership.permitsProject true ⟨other, current, status⟩ remote with
          | error error => exact .done (noticed_self rfl)
          | ok permitted =>
              cases permitted with
              | false => exact .done (noticed_self rfl)
              | true => exact halign remote
  | false =>
      unfold ensureOpen
      rw [hsome.1, hsome.2]
      refine .perform_bind trivial fun reply => ?_
      cases reply with
      | error error => exact .done (noticed_self rfl)
      | ok remote => exact halign remote

/-- The deprecated spelling is a pure alias.  Whoever answers, a project that asks for some
integrations in it, whatever it asks for in the other, makes the same calls as the project
that asks for them in the current one, and what the passes leave behind differs by a notice at
most.  Deletion protection decides alike, also if what is on record is in different
spellings. -/
theorem alias_of_spelling {accessRoles : List Integration} (hused : accessRoles ≠ [])
    (ignored : List Integration) (project : Project) {other : Metadata}
    (hrecords : project.metadata.RecordsAlike other) (now : Moment) (guarded : Bool)
    (conditions : Conditions) :
    (∀ {State : Type} (answer : (call : Call) → StateM State call.Reply) (state : State),
      (ensure now (project.asking accessRoles ignored) guarded conditions).record answer state =
          (ensure now (Project.asking { project with metadata := other } [] accessRoles) guarded
            conditions).record answer state ∧
        Noticed
          ((ensure now (project.asking accessRoles ignored) guarded conditions).run
            answer state).1
          ((ensure now (Project.asking { project with metadata := other } [] accessRoles) guarded
            conditions).run answer state).1) ∧
      ∀ remote : List Role,
        Ownership.permitsProject guarded (project.asking accessRoles ignored) remote =
          Ownership.permitsProject guarded
            (Project.asking { project with metadata := other } [] accessRoles) remote := by
  have hspells : ProjectSpec.Spells accessRoles (project.asking accessRoles ignored).spec :=
    .deprecated project.spec.name ignored hused
  have hdeclared := hspells.declared_eq.trans
    (ProjectSpec.Spells.current project.spec.name).declared_eq.symm
  have huses : (project.asking accessRoles ignored).spec.usesAccessRoles = true := by
    simp [Project.asking, ProjectSpec.usesAccessRoles, hused]
  have halike : Program.Alike (fun _ => True) Noticed
      (ensure now (project.asking accessRoles ignored) guarded conditions)
      (ensure now (Project.asking { project with metadata := other } [] accessRoles) guarded
        conditions) :=
    alike_ensure rfl hdeclared hrecords huses rfl
  refine ⟨fun {State} answer state => ⟨halike.record_eq answer state, ?_⟩, fun remote =>
    Ownership.permitsProject_eq_of_recordsAlike hrecords hdeclared guarded remote⟩
  -- The client is the same and starts from the same state, so it answers the same.
  have hanswer : ∀ call, True → ∀ state twin : State, state = twin →
      (answer call state).1 = (answer call twin).1 ∧
        (answer call state).2 = (answer call twin).2 := by
    rintro call - state _ rfl
    exact ⟨rfl, rfl⟩
  exact (halike.run hanswer rfl).1

/-- A project that spells it the deprecated way, and has the mixed cloud on record likewise. -/
def oldSpelling : Project :=
  { twoRoles with metadata := twoRoles.metadata.setApplied ProjectSpec.codec {
      name := "two-roles"
      accessRoles := [⟨"GCP", "old"⟩, ⟨"AWS", "arn:2"⟩]
      integrations := [] } }

/-- Another record of the same, in the current spelling. -/
def newSpelling : Metadata :=
  twoRoles.metadata.setApplied ProjectSpec.codec {
    name := "two-roles"
    accessRoles := []
    integrations := [⟨"GCP", "old"⟩, ⟨"AWS", "arn:2"⟩] }

/-- The guarded pass over the mixed cloud is permitted in both spellings, as all of its visible
roles are on record in some spelling.  It is fine, and the deprecated spelling is told so. -/
theorem noticed_oldSpelling :
    (mixedCloud.run (ensure creationTime
      (oldSpelling.asking twoRoles.spec.declared [⟨"GCP", "old"⟩]) true
        .empty)).1.result.warning = true ∧
    (mixedCloud.run (ensure creationTime
      (Project.asking { oldSpelling with metadata := newSpelling } [] twoRoles.spec.declared) true
        .empty)).1.result.isOk = true := by
  have hrecords : oldSpelling.metadata.RecordsAlike newSpelling :=
    .inr ⟨[⟨"GCP", "old"⟩, ⟨"AWS", "arn:2"⟩], _, _, .deprecated "two-roles" [] (by decide),
      .current "two-roles", Project.applied_setApplied _ _, Project.applied_setApplied _ _⟩
  have hsame := alias_of_spelling (by decide : twoRoles.spec.declared ≠ []) [⟨"GCP", "old"⟩]
    oldSpelling hrecords creationTime true .empty
  generalize hcurrent :
    Project.asking { oldSpelling with metadata := newSpelling } [] twoRoles.spec.declared = current
    at hsame ⊢
  have hpermits : permitsProject true current (mixedCloud.rolesOf current.id) = .ok true := by
    subst hcurrent
    exact permitsProject_eq_ok_iff.mpr ⟨_, Project.applied_setApplied _ _,
      iff_of_true rfl (.inr (.inl (by decide +kernel)))⟩
  have hsome : hasNone current = false := by
    subst hcurrent
    rfl
  have hok : (mixedCloud.run (ensure creationTime current true .empty)).1.result.isOk = true := by
    rw [run_ensure_of_permits rfl hpermits hsome]
    subst hcurrent
    cbv
  exact ⟨((hsame.1 answer mixedCloud).2.noticed hok).1, hok⟩

end Integrations

end CloudSteward
