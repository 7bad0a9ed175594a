import CloudSteward.Pass.Integrations
import CloudSteward.Proofs.Cloud.Roles

/-!
# One step of a status, and a run of steps

A status makes one of four moves, and `trace_step` says all that a step can do: the
call it makes and what becomes of the status by the reply.  Where it does not matter
which call that was, `Ended` tells the four ways in which a step ends.  `StepEffect` adds
what the step does to the roles of a cloud in memory.  The lemmas behind it say of one
step what `Proofs.Integrations.Run` says of a run: where the roles come from that
are there afterwards, which ones are kept, and what was achieved.
-/

namespace CloudSteward

/-- Whether the last call for a status failed. -/
def Phase.isFailed : Phase → Bool
  | .failedToCreate | .failedToAuthorize | .failedToDeauthorize => true
  | _ => false

namespace Integrations

open MemoryCloud

/-! ## Moves -/

/-- What a step does with a status. -/
inductive Move where
  | rest
  | create
  | authorize
  | remove
deriving DecidableEq

def move (status : Status) : Move :=
  match status.phase with
  | .new | .failedToCreate => .create
  | .created | .failedToAuthorize => if status.arn = "" then .rest else .authorize
  | .deauthorize | .failedToDeauthorize => .remove
  | .authorized => .rest

/-- Whether a step changes or removes the role of a status. -/
def acts (status : Status) : Bool :=
  move status = .authorize || move status = .remove

@[simp] theorem move_declare (integration : Integration) :
    move (Linking.declare integration) = .create := rfl

@[simp] theorem move_removal (role : Role) : move (Status.removal role) = .remove := rfl

theorem move_linked (status : Status) (role : Role) :
    move (status.linked role) =
      if role.isAuthorized = true ∨ status.arn = "" then .rest else .authorize := by
  by_cases hauthorized : role.isAuthorized = true
  · simp [move, Status.linked, hauthorized]
  · simp [move, Status.linked, hauthorized]

section Phases

variable {status : Status}

theorem move_eq_create_iff :
    move status = .create ↔ status.phase = .new ∨ status.phase = .failedToCreate := by
  unfold move
  by_cases harn : status.arn = "" <;> cases status.phase <;> simp [harn]

theorem move_eq_authorize_iff : move status = .authorize ↔
    status.arn ≠ "" ∧ (status.phase = .created ∨ status.phase = .failedToAuthorize) := by
  unfold move
  by_cases harn : status.arn = "" <;> cases status.phase <;> simp [harn]

theorem move_eq_remove_iff : move status = .remove ↔ status.phase.isRemoval = true := by
  unfold move
  by_cases harn : status.arn = "" <;> cases status.phase <;> simp [harn, Phase.isRemoval]

theorem move_eq_rest_iff : move status = .rest ↔ status.phase = .authorized ∨
    (status.arn = "" ∧ (status.phase = .created ∨ status.phase = .failedToAuthorize)) := by
  unfold move
  by_cases harn : status.arn = "" <;> cases status.phase <;> simp [harn]

end Phases

/-- What becomes of a status when the cloud was asked to create its role. -/
def afterCreate (status : Status) : Except CloudError Role → Status
  | .ok role => status.linked role
  | .error error => status.failed .failedToCreate error.text

/-- What becomes of a status when the cloud was asked to authorize its role. -/
def afterAuthorize (status : Status) : Except CloudError Role → Status
  | .ok role => status.linked role
  | .error error => status.failed .failedToAuthorize error.text

/-- What is left of a status when the cloud was asked to remove its role. -/
def afterRemove (status : Status) : Except CloudError Unit → Option Status
  | .ok () => none
  | .error error => some (status.failed .failedToDeauthorize error.text)

/-- The calls that a step makes, with the replies, and what it leaves of the status. -/
inductive Stepped (project : String) (status : Status) : List Exchange → Option Status → Prop where
  | rested : move status = .rest → Stepped project status [] (some status)
  | created (reply : Except CloudError Role) : move status = .create →
      Stepped project status [⟨.createRole project status.provider, reply⟩]
        (some (afterCreate status reply))
  | authorized (reply : Except CloudError Role) : move status = .authorize →
      Stepped project status
        [⟨.authorizeRole project status.roleId status.provider status.arn, reply⟩]
        (some (afterAuthorize status reply))
  | removed (reply : Except CloudError Unit) : move status = .remove →
      Stepped project status [⟨.deauthorizeRole project status.roleId status.provider, reply⟩]
        (afterRemove status reply)

/-- A step is determined by the move and the reply. -/
theorem step_eq (project : String) (status : Status) :
    step project status =
      match move status with
      | .rest => .done (some status)
      | .create => (Call.createRole project status.provider).make.bind fun reply =>
          .done (some (afterCreate status reply))
      | .authorize =>
          (Call.authorizeRole project status.roleId status.provider status.arn).make.bind
            fun reply => .done (some (afterAuthorize status reply))
      | .remove => (Call.deauthorizeRole project status.roleId status.provider).make.bind
          fun reply => .done (afterRemove status reply) := by
  have hask {call : Call} {first second : call.Reply → CloudProgram (Option Status)}
      (hnext : ∀ reply, first reply = second reply) :
      call.make.bind first = call.make.bind second :=
    congrArg _ (funext hnext)
  unfold step move
  cases status.phase with
  | new | failedToCreate =>
      apply hask
      rintro (error | role) <;> rfl
  | created | failedToAuthorize =>
      by_cases harn : status.arn = ""
      · simp [harn]
      · simp only [harn, if_false]
        apply hask
        rintro (error | role) <;> rfl
  | deauthorize | failedToDeauthorize =>
      apply hask
      rintro (error | ⟨⟩) <;> rfl
  | authorized => rfl

theorem trace_step {project : String} {status : Status} {exchanges : List Exchange}
    {output : Option Status} (h : (step project status).Trace exchanges output) :
    Stepped project status exchanges output := by
  rw [step_eq] at h
  unfold Call.make at h
  cases hmove : move status with
  | rest =>
      rw [hmove] at h
      obtain ⟨rfl, rfl⟩ := Program.trace_done_iff.mp h
      exact .rested hmove
  | create =>
      rw [hmove] at h
      obtain ⟨reply, rest, rfl, hrest⟩ := Program.trace_perform_bind_iff.mp h
      obtain ⟨rfl, rfl⟩ := Program.trace_done_iff.mp hrest
      exact .created reply hmove
  | authorize =>
      rw [hmove] at h
      obtain ⟨reply, rest, rfl, hrest⟩ := Program.trace_perform_bind_iff.mp h
      obtain ⟨rfl, rfl⟩ := Program.trace_done_iff.mp hrest
      exact .authorized reply hmove
  | remove =>
      rw [hmove] at h
      obtain ⟨reply, rest, rfl, hrest⟩ := Program.trace_perform_bind_iff.mp h
      obtain ⟨rfl, rfl⟩ := Program.trace_done_iff.mp hrest
      exact .removed reply hmove

/-- Nothing else keeps a step from happening: the cloud may reply anything. -/
theorem Stepped.trace {project : String} {status : Status} {exchanges : List Exchange}
    {output : Option Status} (h : Stepped project status exchanges output) :
    (step project status).Trace exchanges output := by
  rw [step_eq]
  unfold Call.make
  cases h with
  | rested hmove =>
      rw [hmove]
      exact .done _
  | created reply hmove | authorized reply hmove | removed reply hmove =>
      rw [hmove]
      exact Program.trace_perform_bind_iff.mpr ⟨reply, [], rfl, .done _⟩

/-- The call that a step makes, if it makes one. -/
def callOf? (project : String) (status : Status) : Option Call :=
  match move status with
  | .rest => none
  | .create => some (.createRole project status.provider)
  | .authorize => some (.authorizeRole project status.roleId status.provider status.arn)
  | .remove => some (.deauthorizeRole project status.roleId status.provider)

/-- Only the move that creates leads to a creation, and only the one that removes to a
removal. -/
theorem move_eq_of_callOf? {project : String} {status : Status} {call : Call}
    (h : callOf? project status = some call) :
    (call.operation = .createRole → move status = .create) ∧
      (call.operation = .deauthorizeRole → move status = .remove) := by
  unfold callOf? at h
  cases hmove : move status with
  | rest =>
      rw [hmove] at h
      cases h
  | create | authorize | remove =>
      rw [hmove] at h
      obtain rfl := Option.some.inj h
      simp [Call.operation]

/-- Whatever the reply is, a step makes the call that its status asks for. -/
theorem Stepped.questions_eq {project : String} {status : Status} {exchanges : List Exchange}
    {output : Option Status} (h : Stepped project status exchanges output) :
    exchanges.map Program.Exchange.question = (callOf? project status).toList := by
  unfold callOf?
  cases h with
  | rested hmove | created reply hmove | authorized reply hmove | removed reply hmove =>
      simp [hmove]

/-- The reply settles what becomes of a status. -/
theorem Stepped.unique {project : String} {status : Status} {exchanges : List Exchange}
    {output other : Option Status} (h : Stepped project status exchanges output)
    (hother : Stepped project status exchanges other) : output = other := by
  cases h with
  | rested | created | authorized | removed =>
      cases hother
      rfl

/-! ## Endings -/

/-- The role that a call gave back, if it was one that gives back a role, and succeeded. -/
def returned? : Exchange → Option Role
  | ⟨.createRole _ _, .ok role⟩ => some role
  | ⟨.authorizeRole _ _ _ _, .ok role⟩ => some role
  | _ => none

/-- Whether the cloud agreed to remove a role. -/
def Removes (exchange : Exchange) : Prop :=
  exchange.question.operation = .deauthorizeRole ∧ exchange.failed = false

section Exchanges

variable {exchange : Exchange} {role : Role}

theorem failed_of_returned (h : returned? exchange = some role) : exchange.failed = false := by
  obtain ⟨call, reply⟩ := exchange
  cases reply with
  | error error => cases call <;> cases h
  | ok answer => rfl

theorem not_removes_of_returned (h : returned? exchange = some role) : ¬Removes exchange := by
  obtain ⟨call, reply⟩ := exchange
  rintro ⟨hcall, _⟩
  cases call <;> cases hcall
  cases h

theorem returned?_of_failed (h : exchange.failed = true) : returned? exchange = none := by
  cases hreturned : returned? exchange with
  | none => rfl
  | some role => exact absurd (h.symm.trans (failed_of_returned hreturned)) (by decide)

end Exchanges

/-- How a step ends, whatever it asked for: without a call, with a role that was given back,
with an error, or with a role that is gone. -/
inductive Ended (status : Status) : List Exchange → Option Status → Prop where
  | rested : move status = .rest → Ended status [] (some status)
  | linked {exchange : Exchange} (role : Role) : move status ≠ .remove →
      returned? exchange = some role → Ended status [exchange] (some (status.linked role))
  | failed {exchange : Exchange} (phase : Phase) (error : CloudError) : exchange.failed = true →
      phase.isFailed = true → (phase.isRemoval = true ↔ move status = .remove) →
      Ended status [exchange] (some (status.failed phase error.text))
  | removed {exchange : Exchange} : move status = .remove → Removes exchange →
      Ended status [exchange] none

theorem Stepped.ended {project : String} {status : Status} {exchanges : List Exchange}
    {output : Option Status} (h : Stepped project status exchanges output) :
    Ended status exchanges output := by
  cases h with
  | rested hmove => exact .rested hmove
  | created reply hmove =>
      cases reply with
      | error error =>
          exact .failed .failedToCreate error rfl rfl (by simp [Phase.isRemoval, hmove])
      | ok role => exact .linked role (by simp [hmove]) rfl
  | authorized reply hmove =>
      cases reply with
      | error error =>
          exact .failed .failedToAuthorize error rfl rfl (by simp [Phase.isRemoval, hmove])
      | ok role => exact .linked role (by simp [hmove]) rfl
  | removed reply hmove =>
      cases reply with
      | error error =>
          exact .failed .failedToDeauthorize error rfl rfl (by simp [Phase.isRemoval, hmove])
      | ok => exact .removed hmove ⟨rfl, rfl⟩

/-! ## Effects -/

section Effect

variable {cloud after : MemoryCloud} {project : String} {status : Status} {output : Option Status}

/-- What a step leaves of a status and of the roles of a cloud. -/
inductive StepEffect (cloud : MemoryCloud) (project : String) (status : Status) :
    Option Status → MemoryCloud → Prop where
  | rested {after : MemoryCloud} : move status = .rest → cloud.SameRoles after →
      StepEffect cloud project status (some status) after
  | failed {after : MemoryCloud} (phase : Phase) (error : String) : phase ≠ .authorized →
      cloud.SameRoles after →
        StepEffect cloud project status (some (status.failed phase error)) after
  | created {after : MemoryCloud} : move status = .create →
      after.roles = cloud.roles ++ [(project, cloud.upcomingRole status.provider "")] →
        StepEffect cloud project status
          (some (status.linked (cloud.upcomingRole status.provider ""))) after
  | authorized {after : MemoryCloud} (role : Role) : move status = .authorize →
      (project, role) ∈ cloud.roles → role.roleId = status.roleId →
      role.provider = status.provider →
      after.roles = changeFirst (isRole project status.roleId status.provider)
        (fun entry => (entry.1, entry.2.granted status.arn)) cloud.roles →
        StepEffect cloud project status (some (status.linked (role.granted status.arn))) after
  | removed {after : MemoryCloud} (role : Role) : move status = .remove →
      (project, role) ∈ cloud.roles → role.roleId = status.roleId →
      role.provider = status.provider →
      after.roles =
        (cloud.roles.filter fun entry => !isRole project status.roleId status.provider entry) →
        StepEffect cloud project status none after

/-- A step asks for one thing at most, so it does what the cloud does with that. -/
theorem stepEffect_of_execution (h : cloud.Execution (step project status) output after) :
    StepEffect cloud project status output after := by
  obtain ⟨exchanges, htrace, hanswers⟩ := h
  cases trace_step htrace with
  | rested hmove => exact .rested hmove hanswers.sameRoles
  | created reply hmove =>
      obtain ⟨middle, heffect, hrest⟩ := hanswers.cons
      cases reply with
      | error error =>
          exact .failed _ _ (by decide) (heffect.sameRoles_of_error.trans hrest.sameRoles)
      | ok role =>
          obtain ⟨rfl, hroles⟩ := heffect.of_created
          exact .created hmove (hrest.sameRoles.roles_eq.trans hroles)
  | authorized reply hmove =>
      obtain ⟨middle, heffect, hrest⟩ := hanswers.cons
      cases reply with
      | error error =>
          exact .failed _ _ (by decide) (heffect.sameRoles_of_error.trans hrest.sameRoles)
      | ok role =>
          obtain ⟨old, hmem, hid, hprovider, rfl, hroles⟩ := heffect.of_authorized
          exact .authorized old hmove hmem hid hprovider (hrest.sameRoles.roles_eq.trans hroles)
  | removed reply hmove =>
      obtain ⟨middle, heffect, hrest⟩ := hanswers.cons
      rcases reply with error | ⟨⟩
      · exact .failed _ _ (by decide) (heffect.sameRoles_of_error.trans hrest.sameRoles)
      · obtain ⟨old, hmem, hid, hprovider, hroles⟩ := heffect.of_removed
        exact .removed old hmove hmem hid hprovider (hrest.sameRoles.roles_eq.trans hroles)

/-- A step keeps the roles of all identifiers but one. -/
theorem StepEffect.mem_of_ne (h : StepEffect cloud project status output after) {role : Role}
    (hrole : role ∈ cloud.rolesOf project)
    (hne : acts status = true → status.roleId ≠ role.roleId) : role ∈ after.rolesOf project := by
  rw [mem_rolesOf_iff] at hrole ⊢
  have huntouched (hacts : acts status = true) :
      isRole project status.roleId status.provider (project, role) = false := by
    have hid : role.roleId ≠ status.roleId := fun heq => hne hacts heq.symm
    simp [isRole, hid]
  cases h with
  | rested _ hsame => rwa [hsame.roles_eq]
  | failed _ _ _ hsame => rwa [hsame.roles_eq]
  | created _ hroles =>
      rw [hroles]
      exact List.mem_append_left _ hrole
  | authorized old hmove _ _ _ hroles =>
      rw [hroles]
      exact mem_changeFirst_of_not hrole (huntouched (by simp [acts, hmove]))
  | removed old hmove _ _ _ hroles =>
      rw [hroles]
      exact List.mem_filter.mpr ⟨hrole, by simp [huntouched (by simp [acts, hmove])]⟩

/-- A role that is there after a step was there before, or the step created or
authorized it. -/
theorem StepEffect.mem_before_or (h : StepEffect cloud project status output after) {role : Role}
    (hrole : role ∈ after.rolesOf project) :
    role ∈ cloud.rolesOf project ∨
      (move status = .create ∧ role.arn = "") ∨
      (move status = .authorize ∧ ∃ old ∈ cloud.rolesOf project, old.roleId = status.roleId ∧
        old.provider = status.provider ∧ role = old.granted status.arn) := by
  rw [mem_rolesOf_iff] at hrole
  simp only [mem_rolesOf_iff]
  cases h with
  | rested _ hsame => exact .inl (hsame.roles_eq ▸ hrole)
  | failed _ _ _ hsame => exact .inl (hsame.roles_eq ▸ hrole)
  | created hmove hroles =>
      rw [hroles] at hrole
      rcases List.mem_append.mp hrole with hold | hnew
      · exact .inl hold
      · have hupcoming : role = cloud.upcomingRole status.provider "" :=
          (Prod.mk.inj (List.mem_singleton.mp hnew)).2
        exact .inr (.inl ⟨hmove, by rw [hupcoming]; rfl⟩)
  | authorized old hmove _ _ _ hroles =>
      rw [hroles] at hrole
      rcases mem_changeFirst hrole with hold | ⟨⟨owner, before⟩, hbefore, hentry, heq⟩
      · exact .inl hold
      · obtain ⟨rfl, hid, hprovider⟩ := isRole_eq_true_iff.mp hentry
        exact .inr (.inr ⟨hmove, before, hbefore, hid, hprovider, (Prod.mk.inj heq).2⟩)
  | removed old hmove _ _ _ hroles =>
      rw [hroles] at hrole
      exact .inl (List.mem_of_mem_filter hrole)

/-- A status that asks for a new role is not authorized by one step. -/
theorem StepEffect.move_ne_create (h : StepEffect cloud project status output after)
    (hphase : ∀ other ∈ output, other.phase = .authorized) : move status ≠ .create := by
  intro hmove
  cases h with
  | rested hrest _ => simp [hmove] at hrest
  | failed phase error hne _ => exact hne (hphase _ rfl)
  | created =>
      exact absurd (hphase _ rfl) (by simp [Status.linked, Role.isAuthorized, upcomingRole])
  | authorized old hauthorize _ _ _ _ => simp [hmove] at hauthorize
  | removed old hremove _ _ _ _ => simp [hmove] at hremove

theorem StepEffect.phase_of_rest (h : StepEffect cloud project status output after)
    (hmove : move status = .rest) (hphase : ∀ other ∈ output, other.phase = .authorized) :
    status.phase = .authorized := by
  cases h with
  | rested => exact hphase _ rfl
  | failed phase error hne _ => exact absurd (hphase _ rfl) hne
  | created hcreate _ => simp [hmove] at hcreate
  | authorized old hauthorize _ _ _ _ => simp [hmove] at hauthorize
  | removed old hremove _ _ _ _ => simp [hmove] at hremove

/-- The cloud changes the first role with this identifier, and there is only one. -/
theorem granted_mem_rolesOf (hnumbered : cloud.Numbered) {old : Role}
    (hmem : (project, old) ∈ cloud.roles) (hid : old.roleId = status.roleId)
    (hprovider : old.provider = status.provider)
    (hroles : after.roles = changeFirst (isRole project status.roleId status.provider)
      (fun entry => (entry.1, entry.2.granted status.arn)) cloud.roles) :
    old.granted status.arn ∈ after.rolesOf project := by
  rw [mem_rolesOf_iff, hroles]
  refine change_mem_changeFirst hmem (isRole_eq_true_iff.mpr ⟨rfl, hid, hprovider⟩) ?_
  intro other hother hentry
  have hother_id : other.2.roleId = status.roleId := (isRole_eq_true_iff.mp hentry).2.1
  exact hnumbered.entry_eq hother hmem (hother_id.trans hid.symm)

/-- A step that authorizes leaves the role with the `arn` of the status. -/
theorem StepEffect.exists_granted (h : StepEffect cloud project status output after)
    (hnumbered : cloud.Numbered) (hmove : move status = .authorize)
    (hphase : ∀ other ∈ output, other.phase = .authorized) :
    ∃ role ∈ after.rolesOf project, role.roleId = status.roleId ∧
      role.provider = status.provider ∧ role.arn = status.arn := by
  cases h with
  | rested hrest _ => simp [hmove] at hrest
  | failed phase error hne _ => exact absurd (hphase _ rfl) hne
  | created hcreate _ => simp [hmove] at hcreate
  | removed old hremove _ _ _ _ => simp [hmove] at hremove
  | authorized old _ hmem hid hprovider hroles =>
      exact ⟨_, granted_mem_rolesOf hnumbered hmem hid hprovider hroles, hid, hprovider, rfl⟩

/-- A step that removes leaves no role with the identifier of the status. -/
theorem StepEffect.ne_of_removed (h : StepEffect cloud project status output after)
    (hnumbered : cloud.Numbered) (hmove : move status = .remove)
    (hphase : ∀ other ∈ output, other.phase = .authorized) {role : Role}
    (hrole : role ∈ after.rolesOf project) : role.roleId ≠ status.roleId := by
  cases h with
  | rested hrest _ => simp [hmove] at hrest
  | failed phase error hne _ => exact absurd (hphase _ rfl) hne
  | created hcreate _ => simp [hmove] at hcreate
  | authorized old hauthorize _ _ _ _ => simp [hmove] at hauthorize
  | removed old _ hmem hid hprovider hroles =>
      rw [mem_rolesOf_iff, hroles] at hrole
      obtain ⟨hbefore, hkept⟩ := List.mem_filter.mp hrole
      intro heq
      -- The identifier names one role only, and that was filtered out.
      have hsame := hnumbered.entry_eq hbefore hmem (heq.trans hid.symm)
      obtain rfl : role = old := (Prod.mk.inj hsame).2
      simp [isRole, hid, hprovider] at hkept

end Effect

end Integrations

end CloudSteward
