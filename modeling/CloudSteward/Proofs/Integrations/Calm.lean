import CloudSteward.Proofs.Integrations.Ledger
import CloudSteward.Proofs.Integrations.Pass

/-!
# Runs during which nothing fails

Where no failure is ordered, a call can only fail because the cloud does not find what it
names.  So if all roles are of the provider that is declared, every status that acts finds
its role, and the ledger of the run is complete: every status has made its move
(`changes_of_calm`).

What a run makes of the cloud depends on the moves of its statuses alone, and not on what
they report (`served`).  So the cloud after a pass that was shown the roles is given by
them (`visited`).
-/

namespace CloudSteward

namespace MemoryCloud

variable {cloud : MemoryCloud} {project : String} {role : Role}

/-! ## Calls that do not fail -/

section Found

variable {roleId provider : String} (hcalm : cloud.failures = [])
  (hrole : (project, role) ∈ cloud.roles) (hid : role.roleId = roleId)
  (hprovider : role.provider = provider)

include hcalm hrole hid hprovider

theorem answer_authorizeRole_of_calm (arn : String) :
    ∃ reply, answer (.authorizeRole project roleId provider arn) cloud =
      (reply, { cloud with
        roles := changeFirst (isRole project roleId provider)
          (fun entry => (entry.1, entry.2.granted arn)) cloud.roles
        log := cloud.log ++ [.authorizeRole] }) := by
  have hfound : (cloud.roles.find? (isRole project roleId provider)).isSome = true :=
    List.find?_isSome.mpr ⟨_, hrole, isRole_eq_true_iff.mpr ⟨rfl, hid, hprovider⟩⟩
  obtain ⟨entry, hentry⟩ := Option.isSome_iff_exists.mp hfound
  rw [answer_of_calm hcalm]
  unfold perform
  simp only [hentry]
  exact ⟨_, rfl⟩

theorem answer_deauthorizeRole_of_calm :
    answer (.deauthorizeRole project roleId provider) cloud =
      (.ok (), { cloud with
        roles := cloud.roles.filter fun entry => !isRole project roleId provider entry
        log := cloud.log ++ [.deauthorizeRole] }) := by
  have hany : cloud.roles.any (isRole project roleId provider) = true :=
    List.any_eq_true.mpr ⟨_, hrole, isRole_eq_true_iff.mpr ⟨rfl, hid, hprovider⟩⟩
  rw [answer_of_calm hcalm]
  unfold perform
  exact if_pos hany

end Found

end MemoryCloud

namespace Integrations

open MemoryCloud

/-! ## Runs during which nothing fails -/

section Calm

variable {cloud : MemoryCloud} {project provider : String} {status : Status}
  {statuses : List Status} {roles after : List Role} {turn : Turn} {turns : List Turn}

theorem Change.provider_eq (h : Change roles turn after)
    (hroles : ∀ role ∈ roles, role.provider = provider) (hturn : turn.status.provider = provider) :
    ∀ role ∈ after, role.provider = provider := by
  intro role hrole
  rcases h.mem_cases hrole with hbefore | ⟨_, hsame, _⟩ | ⟨_, hsame, _⟩
  · exact hroles role hbefore
  · exact hsame.trans hturn
  · exact hsame.trans hturn

/-- The cloud after a status had its turn. -/
def served (project : String) (cloud : MemoryCloud) (status : Status) : MemoryCloud :=
  match callOf? project status with
  | none => cloud
  | some call => (answer call cloud).2

theorem run_step_snd (project : String) (status : Status) (cloud : MemoryCloud) :
    (cloud.run (step project status)).2 = served project cloud status := by
  rw [step_eq]
  unfold served callOf?
  cases move status <;> rfl

/-- What a run does to the cloud does not depend on what the statuses say of it. -/
theorem run_stepAll_snd (project : String) (statuses : List Status) (cloud : MemoryCloud) :
    (cloud.run (stepAll project statuses)).2 = statuses.foldl (served project) cloud := by
  induction statuses generalizing cloud with
  | nil => rfl
  | cons status rest ih =>
      rw [stepAll_cons, run_bind, run_bind, List.foldl_cons, ← run_step_snd, ← ih]
      rfl

/-- If a status finds the role that it is for, it makes its move. -/
theorem change_of_calm (hcalm : cloud.failures = []) (hnumbered : cloud.Numbered)
    (haimed : acts status = true → ∃ role ∈ cloud.rolesOf project,
      role.roleId = status.roleId ∧ role.provider = status.provider) :
    (served project cloud status).failures = [] ∧
      Change (cloud.rolesOf project) ⟨status, move status⟩
        ((served project cloud status).rolesOf project) := by
  unfold served callOf?
  cases hmove : move status with
  | rest => exact ⟨hcalm, .kept status _⟩
  | create =>
      simp only [answer_of_calm hcalm]
      exact ⟨hcalm, change_of_created hnumbered hmove rfl⟩
  | authorize =>
      obtain ⟨role, hrole, hid, hprovider⟩ := haimed (by simp [acts, hmove])
      rw [mem_rolesOf_iff] at hrole
      obtain ⟨reply, hanswer⟩ :=
        answer_authorizeRole_of_calm hcalm hrole hid hprovider status.arn
      simp only [hanswer]
      exact ⟨hcalm, change_of_authorized hnumbered hmove hrole hid hprovider rfl⟩
  | remove =>
      obtain ⟨role, hrole, hid, hprovider⟩ := haimed (by simp [acts, hmove])
      rw [mem_rolesOf_iff] at hrole
      simp only [answer_deauthorizeRole_of_calm hcalm hrole hid hprovider]
      exact ⟨hcalm, change_of_removed hnumbered hmove hrole hid hprovider rfl⟩

/-- If no failure is ordered and there is one provider only, every status makes its move. -/
theorem changes_of_calm (hcalm : cloud.failures = []) (hnumbered : cloud.Numbered)
    (htargeted : Targeted (cloud.rolesOf project) statuses)
    (hroles : ∀ role ∈ cloud.rolesOf project, role.provider = provider)
    (hstatuses : ∀ status ∈ statuses, status.provider = provider) :
    (statuses.foldl (served project) cloud).failures = [] ∧
      Changes (cloud.rolesOf project) (statuses.map fun status => ⟨status, move status⟩)
        ((statuses.foldl (served project) cloud).rolesOf project) := by
  induction statuses generalizing cloud with
  | nil => exact ⟨hcalm, .done _⟩
  | cons status rest ih =>
      obtain ⟨hfirst, hothers⟩ := List.forall_mem_cons.mp hstatuses
      have haimed (hacts : acts status = true) : ∃ role ∈ cloud.rolesOf project,
          role.roleId = status.roleId ∧ role.provider = status.provider := by
        obtain ⟨role, hrole, hid, _⟩ := htargeted.aimed status List.mem_cons_self hacts
        exact ⟨role, hrole, hid, (hroles role hrole).trans hfirst.symm⟩
      obtain ⟨hmiddle, hchange⟩ := change_of_calm hcalm hnumbered haimed
      have hnumbered_middle : (served project cloud status).Numbered :=
        run_step_snd project status cloud ▸ hnumbered.execution (execution_run _ cloud)
      obtain ⟨hafter, hchanges⟩ := ih hmiddle hnumbered_middle (htargeted.step hchange)
        (hchange.provider_eq hroles hfirst) hothers
      exact ⟨hafter, .turn hchange hchanges⟩

end Calm

/-! ## Passes without protection -/

section Ensure

variable {cloud listed : MemoryCloud} {now : Moment} {project : Project} {conditions : Conditions}
  {remote : List Role}

/-- A pass that is shown the roles goes on with the run over them. -/
theorem run_ensure_of_listed (hsome : hasNone project = false)
    (hlisted : answer (.listRoles project.id) cloud = (.ok remote, listed)) :
    cloud.run (ensure now project false conditions) =
      (aligned now project conditions
          (listed.run (sync project.id project.spec.declared remote)).1,
        (listed.run (sync project.id project.spec.declared remote)).2) := by
  show cloud.run (ensureOpen now project conditions) = _
  unfold ensureOpen
  rw [if_neg (by simp [hsome]), Program.bind_eq_bind, run_make_bind hlisted]
  show listed.run (align now project conditions remote) = _
  unfold align
  rw [Program.bind_eq_bind, run_bind]
  rfl

theorem answer_listRoles (hlisted : cloud.orderedFailure? .listRoles = none) (project : String) :
    answer (.listRoles project) cloud =
      (.ok (cloud.rolesOf project), { cloud with log := cloud.log ++ [.listRoles] }) :=
  answer_of_unordered (.listRoles project) hlisted

/-- The cloud after a pass over the integrations of a project that was shown the roles. -/
def visited (project : Project) (cloud : MemoryCloud) : MemoryCloud :=
  (Linking.statuses project.spec.declared (cloud.rolesOf project.id)).foldl (served project.id)
    { cloud with log := cloud.log ++ [.listRoles] }

theorem run_ensure_snd (hsome : hasNone project = false)
    (hlisted : cloud.orderedFailure? .listRoles = none) :
    (cloud.run (ensure now project false conditions)).2 = visited project cloud := by
  rw [run_ensure_of_listed hsome (answer_listRoles hlisted project.id)]
  exact run_stepAll_snd _ _ _

end Ensure

end Integrations

end CloudSteward
