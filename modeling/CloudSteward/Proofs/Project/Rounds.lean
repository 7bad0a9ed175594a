import CloudSteward.Proofs.Integrations.Addressing
import CloudSteward.Proofs.Integrations.Balance
import CloudSteward.Proofs.Integrations.Calm
import CloudSteward.Proofs.Integrations.Gate
import CloudSteward.Proofs.Project.Retries

/-!
# Two rounds are enough

Where no call fails and all roles are of the provider that is declared, a pass does all that
it sets out to do, and so little is left for the next ones that it can be counted.  After
the first pass there is a role without an `arn` for every integration that still needs one,
so the second one creates none; after the second, integrations and roles are in balance, and
the later ones only look.

This is the invariant `Settling`, kept by every round.  A project that neither declares nor
records anything is passed over without a look at its roles; it stays that way, and so the
invariant leaves it out.
-/

namespace CloudSteward

namespace Integrations

open Linking MemoryCloud

variable {cloud : MemoryCloud} {now : Moment} {project : Project} {conditions : Conditions}
  {provider : String} {statuses : List Status}

/-! ## One round -/

theorem run_ensure_of_hasNone (hnone : hasNone project = true) (cloud : MemoryCloud) :
    cloud.run (ensure now project false conditions) = (cleared conditions, cloud) := by
  show cloud.run (ensureOpen now project conditions) = _
  unfold ensureOpen
  rw [if_pos hnone]
  rfl

theorem listed_of_calm (hcalm : cloud.failures = []) :
    cloud.orderedFailure? .listRoles = none := by
  unfold orderedFailure?
  rw [hcalm]
  rfl

/-- The roles of a project are of one provider. -/
def OneProvider (provider : String) (project : Project) (cloud : MemoryCloud) : Prop :=
  (∀ integration ∈ project.spec.declared, integration.provider = provider) ∧
    ∀ role ∈ cloud.rolesOf project.id, role.provider = provider

theorem OneProvider.status (h : OneProvider provider project cloud) :
    ∀ status ∈ Linking.statuses project.spec.declared (cloud.rolesOf project.id),
      status.provider = provider := by
  intro status hstatus
  rcases mem_statuses_cases hstatus with hplaced | ⟨role, hsurplus, rfl⟩
  · obtain ⟨integration, hdesired, hstands⟩ := exists_standsFor_of_mem_placed hplaced
    exact hstands.provider_eq.trans (h.1 integration hdesired)
  · exact h.2 role (mem_surplus hsurplus).1

/-- In a pass during which nothing fails, every status makes its move. -/
theorem changes_visited (hreachable : cloud.Reachable) (hcalm : cloud.failures = [])
    (hprovider : OneProvider provider project cloud) :
    (visited project cloud).failures = [] ∧
      Changes (cloud.rolesOf project.id)
        (moved (Linking.statuses project.spec.declared (cloud.rolesOf project.id)))
        ((visited project cloud).rolesOf project.id) := by
  have hsame : cloud.SameRoles { cloud with log := cloud.log ++ [.listRoles] } := ⟨rfl, rfl⟩
  exact changes_of_calm hcalm (hreachable.numbered.of_sameRoles hsame)
    (targeted_statuses (hreachable.regular project.id)) hprovider.2 hprovider.status

theorem OneProvider.visited (h : OneProvider provider project cloud)
    (hreachable : cloud.Reachable) (hcalm : cloud.failures = []) :
    OneProvider provider project (Integrations.visited project cloud) := by
  refine ⟨h.1, fun role hrole => ?_⟩
  rcases (changes_visited hreachable hcalm h).2.mem_cases hrole with
    hbefore | ⟨turn, hturn, hsame, _⟩
  · exact h.2 role hbefore
  · obtain ⟨status, hstatus, rfl⟩ := List.mem_map.mp hturn
    exact hsame.trans (h.status status hstatus)

/-- The calls of a pass are a listing and those of the plan. -/
theorem log_ensure (hsome : hasNone project = false) (hcalm : cloud.failures = []) :
    (cloud.run (ensure now project false conditions)).2.log =
      cloud.log ++ .listRoles ::
        (plan project.id project.spec.declared (cloud.rolesOf project.id)).map Call.operation := by
  rw [run_ensure_of_listed hsome (answer_listRoles (listed_of_calm hcalm) project.id)]
  obtain ⟨exchanges, htrace, hlog⟩ := exists_logged_trace_of_run
    (sync project.id project.spec.declared (cloud.rolesOf project.id))
    { cloud with log := cloud.log ++ [.listRoles] }
  rw [hlog, ← questions_eq_plan htrace, List.map_map, List.append_assoc]
  rfl

/-- A status that rests says so in the result: one that waits for an `arn` is in progress. -/
theorem result_aligned_of_atRest (h : List.Forall₂ AtRest project.spec.declared statuses) :
    ((∀ integration ∈ project.spec.declared, integration.arn ≠ "") →
        (aligned now project conditions statuses).result.isOk = true) ∧
      ((∃ integration ∈ project.spec.declared, integration.arn = "") →
        (aligned now project conditions statuses).result =
          .inProgress .cloudIntegrationsNotReady Progress.notAuthorized) := by
  constructor
  · intro hnamed
    rw [isOk_aligned_iff]
    intro status hstatus
    obtain ⟨integration, hdesired, hrest⟩ := exists_left_of_forall₂ h hstatus
    exact ⟨hrest.error_eq, hrest.phase_eq.trans (if_neg (hnamed integration hdesired))⟩
  · rintro ⟨integration, hdesired, harn⟩
    have hfine : ¬statuses.any Status.hasError = true := by
      rw [List.any_eq_true]
      rintro ⟨status, hstatus, herror⟩
      obtain ⟨_, _, hrest⟩ := exists_left_of_forall₂ h hstatus
      simp [Status.hasError, hrest.error_eq] at herror
    have hwaits : ¬(statuses.all fun status => status.phase = .authorized) = true := by
      rw [List.all_eq_true]
      intro hall
      obtain ⟨status, hstatus, hrest⟩ := exists_right_of_forall₂ h hdesired
      have hphase := hrest.phase_eq
      rw [if_pos harn, of_decide_eq_true (hall status hstatus)] at hphase
      cases hphase
    have hprogress : Progress.ofStatuses statuses = .pending := by
      unfold Progress.ofStatuses
      rw [if_neg hfine, if_neg hwaits]
    unfold aligned Progress.publish
    rw [hprogress]
    rfl

end Integrations

namespace Project

open Integrations Linking MemoryCloud

/-! ## Round after round -/

/-- A project is given back with the statuses that a pass left, if it left any. -/
structure Persisted (project : Project) (ensured : Ensured) (given : Project) : Prop where
  spec_eq : given.spec = project.spec
  id_eq : given.id = project.id
  integrations_eq : given.status.integrations =
    ensured.statuses.getD project.status.integrations

theorem persisted_after (now : Moment) (project : Project) (ensured : Ensured) :
    Persisted project ensured (after now project ensured).resource :=
  ⟨rfl, rfl, rfl⟩

/-- Some passes without protection over the integrations of a project, each over what the
one before gave back, during which nobody else touches the cloud and no failure is ordered. -/
inductive Rounds (project : Project) (cloud : MemoryCloud) :
    Nat → Project → MemoryCloud → Prop where
  | none : Rounds project cloud 0 project cloud
  | next {count : Nat} {earlier given : Project} {before : MemoryCloud} (now : Moment)
      (conditions : Conditions) : Rounds project cloud count earlier before →
      Persisted earlier (before.run (ensure now earlier false conditions)).1 given →
        Rounds project cloud (count + 1) given
          (before.run (ensure now earlier false conditions)).2

/-- What is true of a project and a cloud after some rounds. -/
structure Settling (provider : String) (project : Project) (count : Nat) (given : Project)
    (before : MemoryCloud) : Prop where
  reachable : before.Reachable
  calm : before.failures = []
  spec_eq : given.spec = project.spec
  id_eq : given.id = project.id
  oneProvider : OneProvider provider given before
  supplied : hasNone given = false → 1 ≤ count →
    (difference given.spec.declared (before.rolesOf given.id)).length ≤
      freeCount (before.rolesOf given.id)
  balanced : hasNone given = false → 2 ≤ count →
    Balanced given.spec.declared (before.rolesOf given.id)

section Rounds

variable {provider : String} {project given later : Project} {cloud before : MemoryCloud}
  {count : Nat} {now : Moment} {conditions : Conditions}

theorem Settling.regular (h : Settling provider project count given before) :
    Regular (before.rolesOf given.id) :=
  h.reachable.regular given.id

/-- A project without integrations is given back without any. -/
theorem Persisted.hasNone_eq {ensured : Ensured} (h : Persisted given ensured later)
    (hkept : ensured.statuses = none) : hasNone later = hasNone given := by
  unfold hasNone
  rw [h.spec_eq, h.integrations_eq, hkept]
  rfl

theorem Persisted.oneProvider {ensured : Ensured} (h : Persisted given ensured later)
    (hprovider : OneProvider provider given cloud) : OneProvider provider later cloud := by
  unfold OneProvider
  rw [h.spec_eq, h.id_eq]
  exact hprovider

/-- Every round keeps the invariant, and brings the project one step further. -/
theorem Settling.step (h : Settling provider project count given before)
    (hlater : Persisted given (before.run (ensure now given false conditions)).1 later) :
    Settling provider project (count + 1) later
      (before.run (ensure now given false conditions)).2 := by
  have hreachable : (before.run (ensure now given false conditions)).2.Reachable :=
    h.reachable.pass (execution_run _ before)
  cases hsome : hasNone given with
  | true =>
      -- The project is passed over, and will be again.
      rw [run_ensure_of_hasNone hsome] at hlater ⊢
      have hstill : hasNone later ≠ false := by
        rw [hlater.hasNone_eq rfl, hsome]
        decide
      exact {
        reachable := h.reachable
        calm := h.calm
        spec_eq := hlater.spec_eq.trans h.spec_eq
        id_eq := hlater.id_eq.trans h.id_eq
        oneProvider := hlater.oneProvider h.oneProvider
        supplied := fun hnone => absurd hnone hstill
        balanced := fun hnone => absurd hnone hstill }
  | false =>
      rw [run_ensure_snd hsome (listed_of_calm h.calm)] at hreachable ⊢
      obtain ⟨hcalm, hchanges⟩ := changes_visited h.reachable h.calm h.oneProvider
      refine {
        reachable := hreachable
        calm := hcalm
        spec_eq := hlater.spec_eq.trans h.spec_eq
        id_eq := hlater.id_eq.trans h.id_eq
        oneProvider := hlater.oneProvider (h.oneProvider.visited h.reachable h.calm)
        supplied := fun _ _ => ?_
        balanced := fun _ hcount => ?_ }
      · rw [hlater.spec_eq, hlater.id_eq]
        exact demand_le_supply h.regular hchanges
      · rw [hlater.spec_eq, hlater.id_eq]
        exact balanced_of_supplied h.regular (h.supplied hsome (by omega)) hchanges

theorem Rounds.settling (hrounds : Rounds project cloud count given before)
    (hreachable : cloud.Reachable) (hcalm : cloud.failures = [])
    (hprovider : OneProvider provider project cloud) :
    Settling provider project count given before := by
  induction hrounds with
  | none =>
      exact {
        reachable := hreachable
        calm := hcalm
        spec_eq := rfl
        id_eq := rfl
        oneProvider := hprovider
        supplied := fun _ hcount => absurd hcount (by decide)
        balanced := fun _ hcount => absurd hcount (by decide) }
  | next now conditions _ hpersisted ih => exact ih.step hpersisted

/-! ## What a round still does -/

/-- Where no role is missing, none is created. -/
theorem createRole_not_mem_plan {desired : List Integration} {remote : List Role} {id : String}
    (hregular : Regular remote)
    (hsupplied : (difference desired remote).length ≤ freeCount remote) :
    .createRole ∉ (plan id desired remote).map Call.operation := by
  intro hmem
  obtain ⟨call, hcall, hoperation⟩ := List.mem_map.mp hmem
  rcases mem_plan_iff.mp hcall with ⟨status, hstatus, hown⟩ | ⟨role, _, rfl⟩
  · exact move_ne_create hregular hsupplied (mem_statuses_of_mem_placed hstatus)
      ((move_eq_of_callOf? hown).1 hoperation)
  · cases hoperation

/-- In balance nothing is planned. -/
theorem plan_of_balanced {desired : List Integration} {remote : List Role} {id : String}
    (hregular : Regular remote) (hbalanced : Balanced desired remote) :
    plan id desired remote = [] := by
  unfold plan
  rw [hbalanced.surplus_eq_nil hregular, List.map_nil, List.append_nil,
    List.filterMap_eq_nil_iff]
  intro status hstatus
  unfold callOf?
  rw [hbalanced.move_eq_rest hregular hstatus]

/-- In balance the statuses that linking gives are left as they are. -/
theorem run_sync_of_balanced {desired : List Integration} {remote : List Role} {id : String}
    (hregular : Regular remote) (hbalanced : Balanced desired remote) :
    cloud.run (sync id desired remote) = (placed desired remote, cloud) := by
  unfold sync
  rw [statuses_eq, hbalanced.surplus_eq_nil hregular, List.map_nil, List.append_nil,
    stepAll_of_rest fun _ hstatus => hbalanced.move_eq_rest hregular hstatus]
  rfl

/-- If all declared integrations and all roles of the project are of one provider, and no
failure is ordered, then the second pass creates no role, and from the third on a pass
creates, authorizes and removes nothing; it is fine if every declared integration has an
`arn`, and otherwise in progress. -/
theorem rounds_settle (hreachable : cloud.Reachable) (hcalm : cloud.failures = [])
    (hdeclared : ∀ integration ∈ project.spec.declared, integration.provider = provider)
    (hroles : ∀ role ∈ cloud.rolesOf project.id, role.provider = provider)
    (hrounds : Rounds project cloud count given before) (now : Moment) (conditions : Conditions) :
    ∃ result calls, (before.run (ensure now given false conditions)).1.result = result ∧
      (before.run (ensure now given false conditions)).2.log = before.log ++ calls ∧
      (1 ≤ count → .createRole ∉ calls) ∧
      (2 ≤ count → (∀ operation ∈ calls, changesRoles operation = false) ∧
        ((∀ integration ∈ project.spec.declared, integration.arn ≠ "") → result.isOk = true) ∧
        ((∃ integration ∈ project.spec.declared, integration.arn = "") →
          result = .inProgress .cloudIntegrationsNotReady Progress.notAuthorized)) := by
  have h := hrounds.settling hreachable hcalm ⟨hdeclared, hroles⟩
  rw [← h.spec_eq]
  cases hsome : hasNone given with
  | true =>
      have hempty : given.spec.declared = [] :=
        List.isEmpty_iff.mp (Bool.and_eq_true_iff.mp hsome).1
      refine ⟨_, [], rfl, ?_, fun _ => List.not_mem_nil, fun _ => ⟨List.forall_mem_nil _, ?_, ?_⟩⟩
      · rw [run_ensure_of_hasNone hsome, List.append_nil]
      · intro _
        rw [run_ensure_of_hasNone hsome]
        rfl
      · rintro ⟨integration, hmem, _⟩
        rw [hempty] at hmem
        cases hmem
  | false =>
      refine ⟨_, _, rfl, log_ensure hsome h.calm, fun hcount hmem => ?_, fun hcount => ?_⟩
      · rcases List.mem_cons.mp hmem with hlisting | hplanned
        · cases hlisting
        · exact createRole_not_mem_plan h.regular (h.supplied hsome hcount) hplanned
      · have hbalanced := h.balanced hsome hcount
        refine ⟨?_, ?_⟩
        · rw [plan_of_balanced h.regular hbalanced]
          exact List.forall_mem_singleton.mpr rfl
        · rw [run_ensure_of_listed hsome (answer_listRoles (listed_of_calm h.calm) given.id),
            run_sync_of_balanced h.regular hbalanced]
          exact result_aligned_of_atRest (hbalanced.forall₂_atRest h.regular)

end Rounds

/-- The first pass over the crowded project authorizes one role, creates two and removes one.
Then the integration that is declared twice needs one role less, so the second pass removes
one of the new roles again.  The third one only waits for the missing `arn`. -/
theorem rounds_settle_crowded :
    ∃ given before result calls, Rounds crowded crowdedCloud 2 given before ∧
      before.log = [.listRoles, .authorizeRole, .createRole, .createRole, .deauthorizeRole,
        .listRoles, .deauthorizeRole] ∧
      (before.run (ensure authorizationTime given false .empty)).1.result = result ∧
      (before.run (ensure authorizationTime given false .empty)).2.log = before.log ++ calls ∧
      .createRole ∉ calls ∧ (∀ operation ∈ calls, changesRoles operation = false) ∧
      result = .inProgress .cloudIntegrationsNotReady Progress.notAuthorized := by
  have hlog : ((crowdedCloud.run (ensure creationTime crowded false .empty)).2.run
      (ensure creationTime (after creationTime crowded (crowdedCloud.run
        (ensure creationTime crowded false .empty)).1).resource false .empty)).2.log =
        [.listRoles, .authorizeRole, .createRole, .createRole, .deauthorizeRole,
          .listRoles, .deauthorizeRole] := by
    cbv
  have hfirst := Rounds.none.next creationTime .empty (persisted_after creationTime crowded
    (crowdedCloud.run (ensure creationTime crowded false .empty)).1)
  generalize crowdedCloud.run (ensure creationTime crowded false .empty) = first at hlog hfirst
  have hsecond := hfirst.next creationTime .empty (persisted_after creationTime _ _)
  generalize first.2.run (ensure creationTime (after creationTime crowded first.1).resource false
    .empty) = second at hlog hsecond
  have hdeclared : ∀ integration ∈ crowded.spec.declared, integration.provider = "AWS" := by decide
  have hroles : ∀ role ∈ crowdedCloud.rolesOf crowded.id, role.provider = "AWS" := by decide
  obtain ⟨result, calls, hresult, hcalls, hcreate, hlast⟩ := rounds_settle reachable_crowdedCloud
    rfl hdeclared hroles hsecond authorizationTime .empty
  obtain ⟨hquiet, _, hwaits⟩ := hlast (by decide)
  exact ⟨_, second.2, result, calls, hsecond, hlog, hresult, hcalls, hcreate (by decide), hquiet,
    hwaits ⟨⟨"AWS", ""⟩, by decide, rfl⟩⟩

end Project

end CloudSteward
