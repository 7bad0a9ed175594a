import CloudSteward.Pass.Reconcile
import CloudSteward.Proofs.Integrations.Linking
import CloudSteward.Proofs.Integrations.Run

/-!
# What a pass over integrations can do

`trace_ensure` lists the ways in which a pass can go, for any cloud: each is given by
its calls, the replies to them, and what the pass leaves behind.  From it follow the
calls that a pass can make at all, and with these what every pass preserves in a
cloud in memory.  `Reachable` collects the clouds that passes, added roles and
ordered failures lead to.
-/

namespace CloudSteward

namespace Integrations

variable {now : Moment} {project : Project} {guarded : Bool} {conditions : Conditions}
  {exchanges : List Exchange} {ensured : Ensured}

/-! ## The course of a pass -/

/-- The result of a pass to which the roles were not listed. -/
def unread (guarded : Bool) (error : CloudError) : PassResult :=
  if guarded then undecided (.remote error) else unlisted error

theorem isOk_unread (guarded : Bool) (error : CloudError) :
    (unread guarded error).isOk = false := by
  cases guarded <;> rfl

/-- What a pass leaves behind that drove some statuses. -/
def aligned (now : Moment) (project : Project) (conditions : Conditions)
    (statuses : List Status) : Ensured where
  result := (Progress.publish now statuses project.spec.usesAccessRoles conditions).1
  statuses := some statuses
  conditions := (Progress.publish now statuses project.spec.usesAccessRoles conditions).2

/-- A warning does not change how the pass ended. -/
theorem outcome_aligned (statuses : List Status) :
    (aligned now project conditions statuses).result.outcome =
      (Progress.ofStatuses statuses).result.outcome := by
  unfold aligned Progress.publish
  cases Progress.ofStatuses statuses with
  | failed => rfl
  | pending => rfl
  | allAuthorized => cases hdeprecated : project.spec.usesAccessRoles <;> simp <;> rfl

theorem reason_aligned (statuses : List Status) :
    (aligned now project conditions statuses).result.reason =
      (Progress.ofStatuses statuses).result.reason := by
  unfold PassResult.reason
  rw [outcome_aligned]

theorem isOk_aligned (statuses : List Status) :
    (aligned now project conditions statuses).result.isOk =
      (Progress.ofStatuses statuses).result.isOk := by
  unfold PassResult.isOk
  rw [outcome_aligned]

/-- The ways in which a pass can go. -/
inductive Course (now : Moment) (project : Project) (guarded : Bool) (conditions : Conditions) :
    List Exchange → Ensured → Prop where
  | idle : guarded = false → hasNone project = true →
      Course now project guarded conditions [] (cleared conditions)
  | unread (error : CloudError) :
      Course now project guarded conditions [⟨.listRoles project.id, .error error⟩]
        (stopped now conditions (unread guarded error))
  | undecided (remote : List Role) (error : OwnershipError) :
      Ownership.permitsProject guarded project remote = .error error →
        Course now project guarded conditions [⟨.listRoles project.id, .ok remote⟩]
          (stopped now conditions (undecided error))
  | refused (remote : List Role) :
      Ownership.permitsProject guarded project remote = .ok false →
        Course now project guarded conditions [⟨.listRoles project.id, .ok remote⟩]
          (stopped now conditions refused)
  | cleared (remote : List Role) : Ownership.permitsProject guarded project remote = .ok true →
      hasNone project = true →
        Course now project guarded conditions [⟨.listRoles project.id, .ok remote⟩]
          (cleared conditions)
  | aligned (remote : List Role) {exchanges : List Exchange} {statuses : List Status} :
      Ownership.permitsProject guarded project remote = .ok true → hasNone project = false →
      (sync project.id project.spec.declared remote).Trace exchanges statuses →
        Course now project guarded conditions (⟨.listRoles project.id, .ok remote⟩ :: exchanges)
          (aligned now project conditions statuses)

theorem trace_align {remote : List Role}
    (h : (align now project conditions remote).Trace exchanges ensured) :
    ∃ statuses, (sync project.id project.spec.declared remote).Trace exchanges statuses ∧
      ensured = aligned now project conditions statuses := by
  unfold align at h
  exact Program.trace_map_iff.mp h

theorem trace_ensureGuarded (h : (ensureGuarded now project conditions).Trace exchanges ensured) :
    Course now project true conditions exchanges ensured := by
  unfold ensureGuarded Call.make at h
  obtain ⟨reply, rest, rfl, hrest⟩ := Program.trace_perform_bind_iff.mp h
  cases reply with
  | error error =>
      obtain ⟨rfl, rfl⟩ := Program.trace_done_iff.mp hrest
      exact .unread error
  | ok remote =>
      simp only at hrest
      cases hpermits : Ownership.permitsProject true project remote with
      | error error =>
          rw [hpermits] at hrest
          obtain ⟨rfl, rfl⟩ := Program.trace_done_iff.mp hrest
          exact .undecided remote error hpermits
      | ok permitted =>
          rw [hpermits] at hrest
          cases permitted with
          | false =>
              obtain ⟨rfl, rfl⟩ := Program.trace_done_iff.mp hrest
              exact .refused remote hpermits
          | true =>
              simp only at hrest
              by_cases hnone : hasNone project = true
              · rw [if_pos hnone] at hrest
                obtain ⟨rfl, rfl⟩ := Program.trace_done_iff.mp hrest
                exact .cleared remote hpermits hnone
              · rw [if_neg hnone] at hrest
                obtain ⟨statuses, hsync, rfl⟩ := trace_align hrest
                exact .aligned remote hpermits (Bool.not_eq_true _ ▸ hnone) hsync

theorem trace_ensureOpen (h : (ensureOpen now project conditions).Trace exchanges ensured) :
    Course now project false conditions exchanges ensured := by
  unfold ensureOpen Call.make at h
  by_cases hnone : hasNone project = true
  · rw [if_pos hnone] at h
    obtain ⟨rfl, rfl⟩ := Program.trace_done_iff.mp h
    exact .idle rfl hnone
  · rw [if_neg hnone] at h
    obtain ⟨reply, rest, rfl, hrest⟩ := Program.trace_perform_bind_iff.mp h
    cases reply with
    | error error =>
        obtain ⟨rfl, rfl⟩ := Program.trace_done_iff.mp hrest
        exact .unread error
    | ok remote =>
        obtain ⟨statuses, hsync, rfl⟩ := trace_align hrest
        exact .aligned remote rfl (Bool.not_eq_true _ ▸ hnone) hsync

/-- Every pass, whatever the replies are, goes one of these ways. -/
theorem trace_ensure (h : (ensure now project guarded conditions).Trace exchanges ensured) :
    Course now project guarded conditions exchanges ensured := by
  cases guarded with
  | true => exact trace_ensureGuarded h
  | false => exact trace_ensureOpen h

/-! ## Calls -/

/-- The calls of a pass. -/
inductive PassCall (project : String) : Call → Prop where
  | list : PassCall project (.listRoles project)
  | step {call : Call} : StepCall project call → PassCall project call

theorem PassCall.touches_eq_false {owner : String} {call : Call} (h : PassCall owner call)
    {other : String} (hother : owner ≠ other) : MemoryCloud.touches other call = false := by
  cases h with
  | list => rfl
  | step hstep => exact hstep.touches_eq_false hother

theorem PassCall.ne_authorize_empty {owner : String} {call : Call} (h : PassCall owner call)
    (other roleId provider : String) : call ≠ .authorizeRole other roleId provider "" := by
  cases h with
  | list => simp
  | step hstep => exact hstep.ne_authorize_empty other roleId provider

/-- A pass lists the roles and steps, and nothing else. -/
theorem passCall_of_trace (h : (ensure now project guarded conditions).Trace exchanges ensured) :
    ∀ exchange ∈ exchanges, PassCall project.id exchange.question := by
  have hsingle (reply : Call.Reply (.listRoles project.id)) :
      ∀ exchange ∈ [(⟨.listRoles project.id, reply⟩ : Exchange)],
        PassCall project.id exchange.question := by
    intro exchange hmem
    exact List.mem_singleton.mp hmem ▸ .list
  cases trace_ensure h with
  | idle => exact fun _ hmem => absurd hmem List.not_mem_nil
  | unread error => exact hsingle _
  | undecided remote error => exact hsingle _
  | refused remote => exact hsingle _
  | cleared remote => exact hsingle _
  | aligned remote _ _ hsync =>
      refine List.forall_mem_cons.mpr ⟨.list, fun exchange hmem => ?_⟩
      exact .step (stepCall_of_trace hsync exchange hmem)

/-! ## Passes against the cloud in memory -/

theorem isOk_aligned_iff {statuses : List Status} :
    (aligned now project conditions statuses).result.isOk = true ↔
      ∀ status ∈ statuses, status.error = "" ∧ status.phase = .authorized := by
  rw [isOk_aligned]
  unfold Progress.ofStatuses
  by_cases herror : statuses.any Status.hasError = true
  · rw [if_pos herror]
    obtain ⟨status, hstatus, hhas⟩ := List.any_eq_true.mp herror
    have hne : status.error ≠ "" := by simpa [Status.hasError] using hhas
    refine iff_of_false (by decide) fun h => ?_
    exact hne (h status hstatus).1
  · have hnone : ∀ status ∈ statuses, status.error = "" := by
      simpa [Status.hasError] using herror
    rw [if_neg herror]
    by_cases hphases : (statuses.all fun status => status.phase = .authorized) = true
    · rw [if_pos hphases]
      have hall : ∀ status ∈ statuses, status.phase = .authorized := by simpa using hphases
      exact iff_of_true rfl fun status hstatus => ⟨hnone status hstatus, hall status hstatus⟩
    · rw [if_neg hphases]
      refine iff_of_false (by decide) fun h => hphases (List.all_eq_true.mpr ?_)
      intro status hstatus
      rw [(h status hstatus).2]
      rfl

/-- Where no failure is ordered, a pass that is permitted and has something to do goes on with
the roles that are there. -/
theorem run_ensure_of_permits {cloud : MemoryCloud} (hcalm : cloud.failures = [])
    (hpermits : Ownership.permitsProject guarded project (cloud.rolesOf project.id) = .ok true)
    (hsome : hasNone project = false) :
    cloud.run (ensure now project guarded conditions) =
      MemoryCloud.run (align now project conditions (cloud.rolesOf project.id))
        { cloud with log := cloud.log ++ [.listRoles] } := by
  cases guarded with
  | true =>
      show cloud.run (ensureGuarded now project conditions) = _
      unfold ensureGuarded
      rw [Program.bind_eq_bind, MemoryCloud.run_listRoles_bind hcalm]
      simp only [hpermits]
      rw [if_neg (by simp [hsome])]
  | false =>
      show cloud.run (ensureOpen now project conditions) = _
      unfold ensureOpen
      rw [if_neg (by simp [hsome]), Program.bind_eq_bind, MemoryCloud.run_listRoles_bind hcalm]

/-- A pass leaves the roles as they are, as there is nothing to do or something stopped
it, or it drives the statuses of the roles that are there. -/
theorem ensure_cases {cloud after : MemoryCloud}
    (hpass : cloud.Execution (ensure now project guarded conditions) ensured after) :
    (cloud.SameRoles after ∧ ((hasNone project = true ∧ ensured = cleared conditions) ∨
        ∃ result, result.isOk = false ∧ ensured = stopped now conditions result)) ∨
      ∃ middle statuses, cloud.SameRoles middle ∧
        Ownership.permitsProject guarded project (cloud.rolesOf project.id) = .ok true ∧
        hasNone project = false ∧
        middle.Execution (sync project.id project.spec.declared (cloud.rolesOf project.id))
          statuses after ∧
        ensured = aligned now project conditions statuses := by
  obtain ⟨exchanges, htrace, hanswers⟩ := hpass
  -- After a listing alone the roles are the same.
  have hsame {reply : Call.Reply (.listRoles project.id)}
      (h : cloud.Answers [⟨.listRoles project.id, reply⟩] after) : cloud.SameRoles after := by
    obtain ⟨middle, heffect, hrest⟩ := h.cons
    cases reply with
    | error error => exact heffect.sameRoles_of_error.trans hrest.sameRoles
    | ok remote => exact heffect.of_listed.2.trans hrest.sameRoles
  cases trace_ensure htrace with
  | idle _ hnone => exact .inl ⟨hanswers.sameRoles, .inl ⟨hnone, rfl⟩⟩
  | unread error => exact .inl ⟨hsame hanswers, .inr ⟨_, isOk_unread guarded error, rfl⟩⟩
  | undecided remote error => exact .inl ⟨hsame hanswers, .inr ⟨_, rfl, rfl⟩⟩
  | refused remote => exact .inl ⟨hsame hanswers, .inr ⟨_, rfl, rfl⟩⟩
  | cleared remote _ hnone => exact .inl ⟨hsame hanswers, .inl ⟨hnone, rfl⟩⟩
  | aligned remote hpermits hnone hsync =>
      obtain ⟨rfl, middle, hlisted, hrest⟩ := hanswers.cons_listed
      exact .inr ⟨middle, _, hlisted, hpermits, hnone, ⟨_, hsync, hrest⟩, rfl⟩

end Integrations

namespace MemoryCloud

variable {cloud after : MemoryCloud} {now : Moment} {project : Project} {guarded : Bool}
  {conditions : Conditions} {ensured : Integrations.Ensured}

theorem Dated.ensure (h : cloud.Dated)
    (hpass : cloud.Execution (Integrations.ensure now project guarded conditions) ensured after) :
    after.Dated := by
  obtain ⟨exchanges, htrace, hanswers⟩ := hpass
  exact hanswers.preserves Dated
    (fun exchange => ∀ other roleId provider,
      exchange.question ≠ .authorizeRole other roleId provider "")
    (fun hsame hcloud => hcloud.of_sameRoles hsame)
    (fun hallowed heffect hcloud => hcloud.step heffect hallowed)
    (fun exchange hmem =>
      (Integrations.passCall_of_trace htrace exchange hmem).ne_authorize_empty) h

/-- A pass leaves the roles of other projects alone. -/
theorem rolesOf_eq_of_ensure
    (hpass : cloud.Execution (Integrations.ensure now project guarded conditions) ensured after)
    {other : String} (hother : other ≠ project.id) :
    after.rolesOf other = cloud.rolesOf other := by
  obtain ⟨exchanges, htrace, hanswers⟩ := hpass
  exact hanswers.rolesOf_eq fun exchange hmem =>
    (Integrations.passCall_of_trace htrace exchange hmem).touches_eq_false hother.symm

/-! ## Reachable clouds -/

/-- The clouds that are reached from the empty one when roles are added, failures are
ordered, and passes are made over the integrations of any projects. -/
inductive Reachable : MemoryCloud → Prop where
  | empty : Reachable MemoryCloud.empty
  | addRole {cloud : MemoryCloud} (project provider arn : String) : Reachable cloud →
      Reachable (cloud.addRole project provider arn)
  | orderFailure {cloud : MemoryCloud} (operation : Operation) (detail : String) :
      Reachable cloud → Reachable (cloud.orderFailure operation detail)
  | pass {cloud after : MemoryCloud} {now : Moment} {project : Project} {guarded : Bool}
      {conditions : Conditions} {ensured : Integrations.Ensured} : Reachable cloud →
      cloud.Execution (Integrations.ensure now project guarded conditions) ensured after →
        Reachable after

/-- Ordering failures leads to reachable clouds. -/
theorem Reachable.answers_nil (h : cloud.Reachable) (hanswers : cloud.Answers [] after) :
    after.Reachable := by
  generalize hnone : ([] : List Exchange) = exchanges at hanswers
  induction hanswers with
  | none => exact h
  | order operation detail _ ih => exact ih (h.orderFailure operation detail) hnone
  | call => cases hnone

/-- What holds of roles alone is kept along the way if an added role and a pass keep it. -/
theorem Reachable.roles_invariant {Good : MemoryCloud → Prop} (hempty : Good .empty)
    (hsame : ∀ {cloud after : MemoryCloud}, Good cloud → cloud.SameRoles after → Good after)
    (hrole : ∀ {cloud : MemoryCloud} (project provider arn : String), Good cloud →
      Good (cloud.addRole project provider arn))
    (hpass : ∀ {cloud after : MemoryCloud} {now : Moment} {project : Project} {guarded : Bool}
      {conditions : Conditions} {ensured : Integrations.Ensured}, Good cloud →
      cloud.Execution (Integrations.ensure now project guarded conditions) ensured after →
      Good after)
    (h : cloud.Reachable) : Good cloud := by
  induction h with
  | empty => exact hempty
  | addRole project provider arn _ ih => exact hrole project provider arn ih
  | orderFailure operation detail _ ih => exact hsame ih ⟨rfl, rfl⟩
  | pass _ hmade ih => exact hpass ih hmade

theorem Reachable.numbered (h : cloud.Reachable) : cloud.Numbered :=
  h.roles_invariant .empty .of_sameRoles (fun project provider arn h =>
    h.addRole project provider arn) .execution

theorem Reachable.dated (h : cloud.Reachable) : cloud.Dated :=
  h.roles_invariant .empty .of_sameRoles (fun project provider arn h =>
    h.addRole project provider arn) .ensure

theorem Reachable.regular (h : cloud.Reachable) (project : String) :
    Linking.Regular (cloud.rolesOf project) :=
  Linking.regular_rolesOf h.numbered h.dated project

end MemoryCloud

end CloudSteward
