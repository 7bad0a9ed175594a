import CloudSteward.Proofs.Integrations.Step
import Mathlib.Data.List.Forall2

/-!
# A run of steps

The statuses of a project are driven one after the other.  Every statement here is
an induction over the statuses with the corresponding statement about one step.
The last two say what is true if all statuses that are left are authorized: every
status has reached its aim (`settled_of_execution`), and those that are left are the
ones that were not to be removed, in their order (`forall₂_continues_of_execution`).
The first of them needs that no two statuses act on the same role; otherwise a later
step could undo an earlier one.
-/

namespace CloudSteward.Integrations

open MemoryCloud

variable {cloud after : MemoryCloud} {project : String} {status : Status}
  {statuses rest outputs : List Status} {exchanges : List Exchange}

/-! ## Calls -/

/-- The calls of a step. -/
inductive StepCall (project : String) : Call → Prop where
  | create (provider : String) : StepCall project (.createRole project provider)
  | authorize (roleId provider : String) {arn : String} : arn ≠ "" →
      StepCall project (.authorizeRole project roleId provider arn)
  | deauthorize (roleId provider : String) :
      StepCall project (.deauthorizeRole project roleId provider)

theorem StepCall.touches_eq_false {call : Call} (h : StepCall project call) {other : String}
    (hother : project ≠ other) : touches other call = false := by
  cases h <;> simp [touches, hother]

theorem StepCall.ne_authorize_empty {call : Call} (h : StepCall project call)
    (other roleId provider : String) : call ≠ .authorizeRole other roleId provider "" := by
  rintro rfl
  cases h with
  | authorize _ _ harn => exact harn rfl

theorem arn_ne_of_move (h : move status = .authorize) : status.arn ≠ "" := by
  intro harn
  unfold move at h
  split at h <;> simp [harn] at h

theorem stepAll_cons (project : String) (status : Status) (rest : List Status) :
    stepAll project (status :: rest) =
      (step project status).bind fun output =>
        (stepAll project rest).bind fun others => .done (output.toList ++ others) := rfl

/-- Statuses that rest are passed over without a call. -/
theorem stepAll_of_rest (hrest : ∀ status ∈ statuses, move status = .rest) (project : String) :
    stepAll project statuses = .done statuses := by
  induction statuses with
  | nil => rfl
  | cons status rest ih =>
      obtain ⟨hfirst, hothers⟩ := List.forall_mem_cons.mp hrest
      rw [stepAll_cons, step_eq, hfirst, ih hothers]
      rfl

/-- A trace of a run is one of its first step, followed by one of the others. -/
theorem trace_stepAll_cons_iff :
    (stepAll project (status :: rest)).Trace exchanges outputs ↔
      ∃ own behind output others, exchanges = own ++ behind ∧
        outputs = output.toList ++ others ∧ (step project status).Trace own output ∧
        (stepAll project rest).Trace behind others := by
  rw [stepAll_cons, Program.trace_bind_iff]
  constructor
  · rintro ⟨own, behind, output, rfl, hstep, hbehind⟩
    obtain ⟨second, last, others, rfl, hrest, hlast⟩ := Program.trace_bind_iff.mp hbehind
    obtain ⟨rfl, rfl⟩ := Program.trace_done_iff.mp hlast
    rw [List.append_nil]
    exact ⟨own, second, output, others, rfl, rfl, hstep, hrest⟩
  · rintro ⟨own, behind, output, others, rfl, rfl, hstep, hrest⟩
    refine ⟨own, behind, output, rfl, hstep, ?_⟩
    rw [← List.append_nil behind]
    exact hrest.bind (.done _)

/-- The calls of a run are those of its steps. -/
theorem stepCall_of_trace (h : (stepAll project statuses).Trace exchanges outputs) :
    ∀ exchange ∈ exchanges, StepCall project exchange.question := by
  induction statuses generalizing exchanges outputs with
  | nil =>
      obtain ⟨rfl, rfl⟩ := Program.trace_done_iff.mp h
      exact fun _ hmem => absurd hmem List.not_mem_nil
  | cons status rest ih =>
      obtain ⟨own, behind, output, others, rfl, _, hstep, hrest⟩ := trace_stepAll_cons_iff.mp h
      intro exchange hmem
      rcases List.mem_append.mp hmem with hfirst | hsecond
      · cases trace_step hstep with
        | rested => cases hfirst
        | created reply => exact List.mem_singleton.mp hfirst ▸ .create _
        | authorized reply hmove =>
            exact List.mem_singleton.mp hfirst ▸ .authorize _ _ (arn_ne_of_move hmove)
        | removed reply => exact List.mem_singleton.mp hfirst ▸ .deauthorize _ _
      · exact ih hrest exchange hsecond

/-! ## One status after the other -/

theorem outputs_eq_nil (h : cloud.Execution (stepAll project []) outputs after) : outputs = [] := by
  obtain ⟨exchanges, htrace, _⟩ := h
  exact (Program.trace_done_iff.mp htrace).2

theorem sameRoles_of_nil (h : cloud.Execution (stepAll project []) outputs after) :
    cloud.SameRoles after := by
  obtain ⟨exchanges, htrace, hanswers⟩ := h
  obtain ⟨rfl, _⟩ := Program.trace_done_iff.mp htrace
  exact hanswers.sameRoles

/-- A run over some statuses is a step of the first and a run over the others. -/
theorem execution_cons (h : cloud.Execution (stepAll project (status :: rest)) outputs after) :
    ∃ output middle others, StepEffect cloud project status output middle ∧
      cloud.Execution (step project status) output middle ∧
      middle.Execution (stepAll project rest) others after ∧
      outputs = output.toList ++ others := by
  rw [stepAll_cons] at h
  obtain ⟨output, middle, hstep, hbehind⟩ := execution_bind_iff.mp h
  obtain ⟨others, hrest, heq⟩ := execution_map_iff.mp hbehind
  exact ⟨output, middle, others, stepEffect_of_execution hstep, hstep, hrest, heq⟩

/-! ## Roles -/

/-- A run keeps the roles that none of its statuses acts on. -/
theorem mem_of_execution (h : cloud.Execution (stepAll project statuses) outputs after)
    {role : Role} (hrole : role ∈ cloud.rolesOf project)
    (hne : ∀ status ∈ statuses, acts status = true → status.roleId ≠ role.roleId) :
    role ∈ after.rolesOf project := by
  induction statuses generalizing cloud outputs with
  | nil =>
      rw [(sameRoles_of_nil h).rolesOf_eq project]
      exact hrole
  | cons status rest ih =>
      obtain ⟨hfirst, hothers⟩ := List.forall_mem_cons.mp hne
      obtain ⟨output, middle, others, heffect, _, hrest, _⟩ := execution_cons h
      exact ih hrest (heffect.mem_of_ne hrole hfirst) hothers

/-- A role that is there after a run was there before, or has no `arn`, or has that
of a status that the run authorized. -/
theorem mem_before_or_of_execution
    (h : cloud.Execution (stepAll project statuses) outputs after) {role : Role}
    (hrole : role ∈ after.rolesOf project) :
    role ∈ cloud.rolesOf project ∨
      ((∃ status ∈ statuses, move status = .create) ∧ role.arn = "") ∨
      ∃ status ∈ statuses, move status = .authorize ∧ role.provider = status.provider ∧
        role.arn = status.arn := by
  induction statuses generalizing cloud outputs with
  | nil =>
      rw [(sameRoles_of_nil h).rolesOf_eq project] at hrole
      exact .inl hrole
  | cons status rest ih =>
      obtain ⟨output, middle, others, heffect, _, hrest, _⟩ := execution_cons h
      -- The others found the role, or made it what it is; if they found it, look at the step.
      rcases ih hrest with hmiddle | ⟨⟨other, hother, hmove⟩, harn⟩ | ⟨other, hother, hmove⟩
      · rcases heffect.mem_before_or hmiddle with hbefore | ⟨hmove, harn⟩ | ⟨hmove, old, hold⟩
        · exact .inl hbefore
        · exact .inr (.inl ⟨⟨status, List.mem_cons_self, hmove⟩, harn⟩)
        · obtain ⟨_, _, hprovider, rfl⟩ := hold
          exact .inr (.inr ⟨status, List.mem_cons_self, hmove, hprovider, rfl⟩)
      · exact .inr (.inl ⟨⟨other, List.mem_cons_of_mem _ hother, hmove⟩, harn⟩)
      · exact .inr (.inr ⟨other, List.mem_cons_of_mem _ hother, hmove⟩)

/-- A run that creates no role leaves only identifiers that were there before. -/
theorem exists_roleId_of_execution
    (h : cloud.Execution (stepAll project statuses) outputs after)
    (hcreate : ∀ status ∈ statuses, move status ≠ .create) {role : Role}
    (hrole : role ∈ after.rolesOf project) :
    ∃ old ∈ cloud.rolesOf project, old.roleId = role.roleId := by
  induction statuses generalizing cloud outputs with
  | nil =>
      rw [(sameRoles_of_nil h).rolesOf_eq project] at hrole
      exact ⟨role, hrole, rfl⟩
  | cons status rest ih =>
      obtain ⟨hfirst, hothers⟩ := List.forall_mem_cons.mp hcreate
      obtain ⟨output, middle, others, heffect, _, hrest, _⟩ := execution_cons h
      obtain ⟨old, hold, hid⟩ := ih hrest hothers
      rcases heffect.mem_before_or hold with
        hbefore | ⟨hmove, _⟩ | ⟨_, earlier, hearlier, _, _, rfl⟩
      · exact ⟨old, hbefore, hid⟩
      · exact absurd hmove hfirst
      · exact ⟨earlier, hearlier, hid⟩

/-! ## Runs that end well -/

/-- What a status aims at. -/
def Settled (after : MemoryCloud) (project : String) (status : Status) : Prop :=
  match move status with
  | .rest => status.phase = .authorized
  | .create => False
  | .authorize => ∃ role ∈ after.rolesOf project, role.roleId = status.roleId ∧
      role.provider = status.provider ∧ role.arn = status.arn
  | .remove => ∀ role ∈ after.rolesOf project, role.roleId ≠ status.roleId

theorem Settled.move_ne_create (h : Settled after project status) : move status ≠ .create := by
  intro hmove
  simp [Settled, hmove] at h

theorem nodup_of_nodup_acting_cons
    (h : (((status :: statuses).filter acts).map Status.roleId).Nodup) :
    ((statuses.filter acts).map Status.roleId).Nodup :=
  h.sublist (((List.sublist_cons_self status statuses).filter acts).map _)

/-- If every role is acted on once, the statuses behind one that acts do so on other roles. -/
theorem roleId_ne_of_nodup_acting_cons
    (h : (((status :: statuses).filter acts).map Status.roleId).Nodup)
    (hacts : acts status = true) :
    ∀ other ∈ statuses, acts other = true → other.roleId ≠ status.roleId := by
  rw [List.filter_cons_of_pos hacts, List.map_cons, List.nodup_cons] at h
  intro other hother hother_acts heq
  exact h.1 (heq ▸ List.mem_map_of_mem (List.mem_filter.mpr ⟨hother, hother_acts⟩))

/-- If all statuses that are left are authorized, every status has reached its aim. -/
theorem settled_of_execution (h : cloud.Execution (stepAll project statuses) outputs after)
    (hnumbered : cloud.Numbered) (hphases : ∀ output ∈ outputs, output.phase = .authorized)
    (hdistinct : ((statuses.filter acts).map Status.roleId).Nodup) :
    ∀ status ∈ statuses, Settled after project status := by
  induction statuses generalizing cloud outputs with
  | nil => exact fun _ hmem => absurd hmem List.not_mem_nil
  | cons status rest ih =>
      obtain ⟨output, middle, others, heffect, hstep, hrest, rfl⟩ := execution_cons h
      have hothers : ∀ other ∈ others, other.phase = .authorized :=
        fun other hother => hphases other (List.mem_append_right _ hother)
      have houtput : ∀ other ∈ output, other.phase = .authorized :=
        fun other hother => hphases other (List.mem_append_left _ (Option.mem_toList.mpr hother))
      have hsettled :=
        ih hrest (hnumbered.execution hstep) hothers (nodup_of_nodup_acting_cons hdistinct)
      refine List.forall_mem_cons.mpr ⟨?_, hsettled⟩
      unfold Settled
      cases hmove : move status with
      | rest => exact heffect.phase_of_rest hmove houtput
      | create => exact heffect.move_ne_create houtput hmove
      | authorize =>
          -- No later step acts on the role, so it stays as this step left it.
          obtain ⟨role, hrole, hid, hprovider, harn⟩ :=
            heffect.exists_granted hnumbered hmove houtput
          refine ⟨role, mem_of_execution hrest hrole ?_, hid, hprovider, harn⟩
          rw [hid]
          exact roleId_ne_of_nodup_acting_cons hdistinct (by simp [acts, hmove])
      | remove =>
          -- No later step creates a role, so the identifier does not come back.
          intro role hrole
          obtain ⟨old, hold, hid⟩ := exists_roleId_of_execution hrest
            (fun other hother => (hsettled other hother).move_ne_create) hrole
          rw [← hid]
          exact heffect.ne_of_removed hnumbered hmove houtput hold

/-- A status that goes on as an authorized one, under the same name. -/
structure Continues (status output : Status) : Prop where
  provider_eq : output.provider = status.provider
  arn_eq : output.arn = status.arn
  roleId_eq : output.roleId = status.roleId
  phase_eq : output.phase = .authorized

/-- A step that leaves an authorized status or none leaves none exactly if it removes. -/
theorem StepEffect.output_cases {output : Option Status}
    (h : StepEffect cloud project status output after)
    (hphase : ∀ other ∈ output, other.phase = .authorized) :
    (move status = .remove ∧ output = none) ∨
      (move status ≠ .remove ∧ ∃ other, output = some other ∧ Continues status other) := by
  cases h with
  | rested hmove _ => exact .inr ⟨by simp [hmove], status, rfl, rfl, rfl, rfl, hphase _ rfl⟩
  | failed phase error hne _ => exact absurd (hphase _ rfl) hne
  | created hmove hroles =>
      exact absurd hmove ((StepEffect.created hmove hroles).move_ne_create hphase)
  | authorized old hmove _ hid _ _ =>
      exact .inr ⟨by simp [hmove], _, rfl, rfl, rfl, hid, hphase _ rfl⟩
  | removed old hmove _ _ _ _ => exact .inl ⟨hmove, rfl⟩

/-- If all statuses that are left are authorized, they are those that were not to be
removed, in their order. -/
theorem forall₂_continues_of_execution
    (h : cloud.Execution (stepAll project statuses) outputs after)
    (hphases : ∀ output ∈ outputs, output.phase = .authorized) :
    List.Forall₂ Continues (statuses.filter fun status => move status ≠ .remove) outputs := by
  induction statuses generalizing cloud outputs with
  | nil =>
      rw [outputs_eq_nil h]
      exact .nil
  | cons status rest ih =>
      obtain ⟨output, middle, others, heffect, _, hrest, rfl⟩ := execution_cons h
      have htail := ih hrest fun other hother => hphases other (List.mem_append_right _ hother)
      have houtput : ∀ other ∈ output, other.phase = .authorized :=
        fun other hother => hphases other (List.mem_append_left _ (Option.mem_toList.mpr hother))
      rcases heffect.output_cases houtput with ⟨hmove, rfl⟩ | ⟨hmove, other, rfl, hcontinues⟩
      · rw [List.filter_cons_of_neg (by simp [hmove])]
        exact htail
      · rw [List.filter_cons_of_pos (by simp [hmove])]
        exact .cons hcontinues htail

end CloudSteward.Integrations
