import CloudSteward.Proofs.Integrations.Addressing
import CloudSteward.Proofs.Ownership

/-!
# Passes over roles that have drifted

The roles of a project have drifted if a visible one is not on record as applied
(`Drifted`).  Deletion protection then lets a pass change them only if everything that is
declared is there (`Reflected`).

The gate and linking look for declared identifiers apart from each other: the gate among the
visible roles, linking among all of them, and of several it takes the last.  Both pass over
empty identifiers, so what the gate has found is linked before any role is claimed
(`exists_exact_of_mem_matched`).  Whatever is claimed on top of that, no status is left for
which a role would be created.  If all roles have ids there is nothing left to claim with
(`claim_of_isLinked`), and roles are authorized under the identifier that they have already.
-/

namespace CloudSteward

namespace Ownership

variable {lastApplied current : List Integration} {remote : List Role}

/-- Some visible role is not among what was applied last. -/
def Drifted (lastApplied : List Integration) (remote : List Role) : Prop :=
  ∃ role ∈ remote, role.arn ≠ "" ∧
    ∀ integration ∈ lastApplied, identifier integration ≠ identifier role

/-- Everything declared has an `arn`, and a role with its identifier is listed. -/
def Reflected (current : List Integration) (remote : List Role) : Prop :=
  ∀ integration ∈ current, integration.arn ≠ "" ∧
    ∃ role ∈ remote, identifier role = identifier integration

/-- Where roles have drifted they are owned only if everything declared is there. -/
theorem Owned.reflected (h : Owned lastApplied current remote)
    (hdrifted : Drifted lastApplied remote) : Reflected current remote := by
  obtain ⟨stray, hstray, hvisible, hunrecorded⟩ := hdrifted
  rcases h with hhidden | hrecorded | hpresent
  · exact absurd (hhidden stray hstray) hvisible
  · obtain ⟨integration, hintegration, hsame⟩ := hrecorded stray hstray hvisible
    exact absurd hsame (hunrecorded integration hintegration)
  · intro integration hintegration
    obtain ⟨harn, role, hrole, _, hsame⟩ := hpresent integration hintegration
    exact ⟨harn, role, hrole, hsame⟩

end Ownership

namespace Linking

open Integrations Ownership

variable {desired : List Integration} {remote : List Role}

/-- Linked statuses leave all free roles to others. -/
theorem claim_of_isLinked {statuses : List Status}
    (hlinked : ∀ status ∈ statuses, status.isLinked = true) (free : List Role) :
    claim statuses free = (statuses, free) := by
  induction statuses with
  | nil => rw [claim]
  | cons status rest ih =>
      obtain ⟨hfirst, hothers⟩ := List.forall_mem_cons.mp hlinked
      cases free with
      | nil => rw [claim]
      | cons role free => rw [claim, if_pos hfirst, ih hothers]

section Reflected

variable (hreflected : Reflected desired remote)

include hreflected

/-- A status is linked to a role that has its identifier, before any role is claimed. -/
theorem exists_exact_of_mem_matched {status : Status} (hstatus : status ∈ matched desired remote) :
    ∃ integration ∈ desired, ∃ role ∈ remote, role.arn ≠ "" ∧
      identifier role = identifier integration ∧ status = (declare integration).linked role := by
  obtain ⟨start, hstart, rfl⟩ := List.mem_map.mp hstatus
  obtain ⟨integration, hdesired, rfl⟩ := List.mem_map.mp hstart
  obtain ⟨harn, found, hfound, hsame⟩ := hreflected integration hdesired
  rcases linkExact_cases (sortRoles remote) integration with
    ⟨hid, role, hrole, hmatch, heq⟩ | ⟨hempty | hnone, _⟩
  · exact ⟨integration, hdesired, role, mem_sortRoles_iff.mp hrole,
      Role.identifier_ne_empty_iff.mp (hmatch ▸ hid), hmatch, heq⟩
  · exact absurd hempty (Integration.identifier_ne_empty_iff.mpr harn)
  · exact absurd hsame (hnone found (mem_sortRoles_iff.mpr hfound))

/-- What is linked once stays linked, also where a role without an id is replaced by a
claimed one. -/
theorem move_ne_create_of_mem_placed {status : Status} (hstatus : status ∈ placed desired remote) :
    move status ≠ .create := by
  have hlinked (earlier : Status) (role : Role) : move (earlier.linked role) ≠ .create := by
    rw [move_linked]
    split_ifs <;> simp
  obtain ⟨picked, _, hclaims⟩ := exists_picked desired remote
  obtain ⟨start, hstart, rfl | ⟨_, role, _, rfl⟩⟩ := exists_left_of_forall₂ hclaims.forall₂ hstatus
  · obtain ⟨integration, _, role, _, _, _, rfl⟩ := exists_exact_of_mem_matched hreflected hstart
    exact hlinked _ role
  · exact hlinked start role

/-- Where all roles have ids nothing is claimed. -/
theorem claim_of_reflected (hnamed : ∀ role ∈ remote, role.roleId ≠ "") (free : List Role) :
    claim (matched desired remote) free = (matched desired remote, free) := by
  refine claim_of_isLinked (fun status hstatus => ?_) free
  obtain ⟨integration, hdesired, role, hrole, _, _, rfl⟩ :=
    exists_exact_of_mem_matched hreflected hstatus
  have harn : integration.arn ≠ "" := (hreflected integration hdesired).1
  simp [Status.isLinked, Status.linked, declare, Status.new, harn, hnamed role hrole]

end Reflected

end Linking

namespace Integrations

open Linking Ownership

variable {now : Moment} {project : Project} {conditions : Conditions} {remote : List Role}
  {exchanges : List Exchange} {ensured : Ensured}

/-- A run over roles that reflect what is declared creates none. -/
theorem createRole_not_mem_plan_of_reflected {owner : String} {desired : List Integration}
    (hreflected : Reflected desired remote) :
    ∀ call ∈ plan owner desired remote, call.operation ≠ .createRole := by
  intro call hcall
  rcases mem_plan_iff.mp hcall with ⟨status, hstatus, hown⟩ | ⟨role, _, rfl⟩
  · exact fun hcreates => move_ne_create_of_mem_placed hreflected hstatus
      ((move_eq_of_callOf? hown).1 hcreates)
  · simp [Call.operation]

/-- It authorizes roles for integrations whose identifier they have. -/
theorem exists_role_of_authorize_of_reflected {owner : String} {desired : List Integration}
    (hreflected : Reflected desired remote) (hnamed : ∀ role ∈ remote, role.roleId ≠ "")
    {named roleId provider arn : String}
    (hcall : .authorizeRole named roleId provider arn ∈ plan owner desired remote) :
    named = owner ∧ ⟨provider, arn⟩ ∈ desired ∧ ∃ role ∈ remote, role.roleId = roleId ∧
      role.arn ≠ "" ∧ identifier role = sharedIdentifier provider arn := by
  obtain ⟨status, hstatus, _, rfl, rfl, rfl, rfl⟩ := authorize_mem_plan_iff.mp hcall
  rw [placed, claim_of_reflected hreflected hnamed] at hstatus
  obtain ⟨integration, hdesired, role, hrole, hvisible, hsame, rfl⟩ :=
    exists_exact_of_mem_matched hreflected hstatus
  exact ⟨rfl, hdesired, role, hrole, rfl, hvisible, hsame⟩

/-- A pass that was permitted although the listed roles have drifted creates no role.  If all
of these have ids, it authorizes only visible ones, each for a declared integration with the
identifier of the role, and every role without an `arn` stays unclaimed. -/
theorem drifted_pass_creates_nothing
    (h : (ensure now project true conditions).Trace
      (⟨.listRoles project.id, .ok remote⟩ :: exchanges) ensured)
    (hpermits : permitsProject true project remote = .ok true)
    {snapshot : Option ProjectSpec}
    (happlied : project.metadata.applied ProjectSpec.codec = .ok snapshot)
    (hdrifted : Drifted (recorded snapshot) remote) :
    (∀ exchange ∈ exchanges, exchange.question.operation ≠ .createRole) ∧
      ((∀ role ∈ remote, role.roleId ≠ "") →
        (∀ owner roleId provider arn : String,
          .authorizeRole owner roleId provider arn ∈ exchanges.map Program.Exchange.question →
            owner = project.id ∧ ⟨provider, arn⟩ ∈ project.spec.declared ∧
            ∃ role ∈ remote, role.roleId = roleId ∧ role.arn ≠ "" ∧
              identifier role = sharedIdentifier provider arn) ∧
        unclaimed project.spec.declared remote =
          (sortRoles remote).filter fun role => role.arn = "") := by
  obtain ⟨other, hother, howned⟩ := permitsProject_eq_ok_iff.mp hpermits
  obtain rfl : other = snapshot := Except.ok.inj (hother.symm.trans happlied)
  have hreflected := (howned.mp rfl).reflected hdrifted
  -- Whether the pass had anything to do or not, its calls are among those of the plan.
  have hcalls : ∀ call ∈ exchanges.map Program.Exchange.question,
      call ∈ plan project.id project.spec.declared remote := by
    cases trace_ensure h with
    | undecided _ error hundecided => cases hundecided.symm.trans hpermits
    | refused _ hrefused => cases hrefused.symm.trans hpermits
    | cleared => exact List.forall_mem_nil _
    | aligned _ _ _ hsync =>
        rw [questions_eq_plan hsync]
        exact fun call hcall => hcall
  refine ⟨fun exchange hexchange => ?_, fun hnamed => ⟨?_, ?_⟩⟩
  · exact createRole_not_mem_plan_of_reflected hreflected _
      (hcalls _ (List.mem_map_of_mem hexchange))
  · intro owner roleId provider arn hcall
    exact exists_role_of_authorize_of_reflected hreflected hnamed (hcalls _ hcall)
  · rw [unclaimed, claim_of_reflected hreflected hnamed]

/-- Both roles that are declared below, visible but without a date, one that is not declared,
and one that could be claimed. -/
def driftedRoles : List Role :=
  [bareRole "AWS" "r1" "", bareRole "AWS" "r2" "arn:2", bareRole "GCP" "r3" "old",
    bareRole "AWS" "r4" "arn:1"]

/-- A client that lists these roles. -/
def driftedClient (call : Call) : StateM Unit call.Reply :=
  match call with
  | .listRoles _ => pure (.ok driftedRoles)
  | other => dateless other

/-- Nothing is on record, so the roles have drifted.  The pass authorizes both that are
declared under the identifiers they have, and removes the others. -/
theorem drifted_pass_authorizes :
    ∃ exchanges ensured, (ensure MemoryCloud.creationTime twoRoles true .empty).Trace
        (⟨.listRoles "p", .ok driftedRoles⟩ :: exchanges) ensured ∧
      exchanges.map Program.Exchange.question =
        [.authorizeRole "p" "r4" "AWS" "arn:1", .authorizeRole "p" "r2" "AWS" "arn:2",
          .deauthorizeRole "p" "r3" "GCP", .deauthorizeRole "p" "r1" "AWS"] ∧
      (∀ exchange ∈ exchanges, exchange.question.operation ≠ .createRole) ∧
      unclaimed twoRoles.spec.declared driftedRoles =
        (sortRoles driftedRoles).filter fun role => role.arn = "" := by
  have htrace := Program.trace_record driftedClient
    (ensure MemoryCloud.creationTime twoRoles true .empty) ()
  have hcalls : ((ensure MemoryCloud.creationTime twoRoles true .empty).record driftedClient
      ()).tail.map Program.Exchange.question =
        [.authorizeRole "p" "r4" "AWS" "arn:1", .authorizeRole "p" "r2" "AWS" "arn:2",
          .deauthorizeRole "p" "r3" "GCP", .deauthorizeRole "p" "r1" "AWS"] := by cbv
  have hpermits : permitsProject true twoRoles driftedRoles = .ok true := by cbv
  have hdrifted : Drifted (recorded none) driftedRoles :=
    ⟨bareRole "GCP" "r3" "old", by decide, by decide, List.forall_mem_nil _⟩
  obtain ⟨hcreates, hnamed⟩ := drifted_pass_creates_nothing htrace hpermits rfl hdrifted
  exact ⟨_, _, htrace, hcalls, hcreates, (hnamed (by decide)).2⟩

end Integrations

end CloudSteward
