import CloudSteward.Cloud.Memory
import CloudSteward.Proofs.Trace

/-!
# Programs against the cloud in memory

An `Execution` is a trace whose answers come from a cloud in memory, while somebody
else may order failures at any moment, also between two calls of the program.  So
every pattern of successes and failures occurs in some execution, and
`MemoryCloud.run`, during which nothing is ordered, is the special case
`execution_run`.

What one call can do to the roles is said once, by `RolesAfter`; the later invariants
only look at its cases.
-/

namespace CloudSteward

namespace Role

/-- The role after the cloud has accepted an `arn` for it. -/
def granted (role : Role) (arn : String) : Role :=
  { role with arn, authorized := some MemoryCloud.authorizationTime }

end Role

namespace MemoryCloud

variable {α β : Type} {cloud after : MemoryCloud}

/-! ## Executions -/

/-- The cloud gives these replies to these calls, one after the other. -/
inductive Answers : MemoryCloud → List Exchange → MemoryCloud → Prop where
  | none (cloud : MemoryCloud) : Answers cloud [] cloud
  | order {cloud after : MemoryCloud} {exchanges : List Exchange} (operation : Operation)
      (detail : String) : Answers (cloud.orderFailure operation detail) exchanges after →
        Answers cloud exchanges after
  | call {cloud after : MemoryCloud} {exchanges : List Exchange} (call : Call) :
      Answers (answer call cloud).2 exchanges after →
        Answers cloud (⟨call, (answer call cloud).1⟩ :: exchanges) after

/-- A program runs against the cloud and ends with this result and this cloud. -/
def Execution (cloud : MemoryCloud) (program : CloudProgram α) (value : α)
    (after : MemoryCloud) : Prop :=
  ∃ exchanges, program.Trace exchanges value ∧ cloud.Answers exchanges after

theorem answers_append_iff {first second : List Exchange} :
    cloud.Answers (first ++ second) after ↔
      ∃ middle, cloud.Answers first middle ∧ middle.Answers second after := by
  constructor
  · intro h
    generalize hall : first ++ second = exchanges at h
    induction h generalizing first with
    | none cloud =>
        obtain ⟨rfl, rfl⟩ := List.append_eq_nil_iff.mp hall
        exact ⟨cloud, .none cloud, .none cloud⟩
    | order operation detail _ ih =>
        obtain ⟨middle, hfirst, hsecond⟩ := ih hall
        exact ⟨middle, .order operation detail hfirst, hsecond⟩
    | @call cloud after exchanges call h ih =>
        cases first with
        | nil =>
            rw [List.nil_append] at hall
            exact ⟨cloud, .none cloud, hall ▸ .call call h⟩
        | cons head rest =>
            obtain ⟨rfl, hrest⟩ := List.cons_eq_cons.mp hall
            obtain ⟨middle, hfirst, hsecond⟩ := ih hrest
            exact ⟨middle, .call call hfirst, hsecond⟩
  · rintro ⟨middle, hfirst, hsecond⟩
    induction hfirst with
    | none => exact hsecond
    | order operation detail _ ih => exact .order operation detail (ih hsecond)
    | call call _ ih => exact .call call (ih hsecond)

/-- Without a call, only failures can be ordered. -/
theorem Answers.of_nil (h : cloud.Answers [] after) :
    ∃ failures, after = { cloud with failures } := by
  generalize hnone : ([] : List Exchange) = exchanges at h
  induction h with
  | none cloud => exact ⟨cloud.failures, rfl⟩
  | order operation detail _ ih => exact ih hnone
  | call => cases hnone

/-- Some failures may be ordered before the first of several calls. -/
theorem Answers.uncons {exchange : Exchange} {rest : List Exchange}
    (h : cloud.Answers (exchange :: rest) after) :
    ∃ failures, exchange.answer = (answer exchange.question { cloud with failures }).1 ∧
      (answer exchange.question { cloud with failures }).2.Answers rest after := by
  generalize hall : exchange :: rest = exchanges at h
  induction h with
  | none => cases hall
  | order operation detail _ ih => exact ih hall
  | @call cloud after behind call h =>
      obtain ⟨rfl, rfl⟩ := List.cons_eq_cons.mp hall
      exact ⟨cloud.failures, rfl, h⟩

/-- Running a program without ordering anything meanwhile is an execution. -/
theorem execution_run (program : CloudProgram α) (cloud : MemoryCloud) :
    cloud.Execution program (cloud.run program).1 (cloud.run program).2 := by
  induction program generalizing cloud with
  | done value => exact ⟨[], .done value, .none cloud⟩
  | ask call next ih =>
      obtain ⟨exchanges, htrace, hanswers⟩ := ih (answer call cloud).1 (answer call cloud).2
      exact ⟨⟨call, (answer call cloud).1⟩ :: exchanges, .ask _ htrace, .call call hanswers⟩

/-- A composed program runs in one go. -/
theorem run_bind (program : CloudProgram α) (next : α → CloudProgram β) (cloud : MemoryCloud) :
    cloud.run (program.bind next) = (cloud.run program).2.run (next (cloud.run program).1) :=
  Program.run_bind program next cloud

/-- A program that makes a call goes on with the reply to it. -/
theorem run_make_bind {call : Call} {reply : call.Reply}
    (hanswer : answer call cloud = (reply, after)) (next : call.Reply → CloudProgram α) :
    cloud.run (call.make.bind next) = after.run (next reply) := by
  rw [run_bind]
  show run (next (answer call cloud).1) (answer call cloud).2 = _
  rw [hanswer]

/-- A cloud does as it is told, unless a failure of that kind of call was ordered. -/
theorem answer_of_unordered (call : Call) (hnone : cloud.orderedFailure? call.operation = none) :
    answer call cloud = perform { cloud with log := cloud.log ++ [call.operation] } call := by
  unfold answer
  rw [hnone]

/-- A cloud in which no failure is ordered does as it is told. -/
theorem answer_of_calm (hcalm : cloud.failures = []) (call : Call) :
    answer call cloud = perform { cloud with log := cloud.log ++ [call.operation] } call := by
  refine answer_of_unordered call ?_
  unfold orderedFailure?
  rw [hcalm]
  rfl

/-- As long as no failure was ordered, the roles are listed, and only the log changes. -/
theorem run_listRoles_bind (hcalm : cloud.failures = []) (project : String)
    (next : Call.Reply (.listRoles project) → CloudProgram α) :
    cloud.run ((Call.listRoles project).make.bind next) =
      run (next (.ok (cloud.rolesOf project)))
        { cloud with log := cloud.log ++ [.listRoles] } :=
  run_make_bind (answer_of_calm hcalm (.listRoles project)) next

/-- What a call does changes neither the log nor the failures that are ordered. -/
theorem log_failures_perform (call : Call) (cloud : MemoryCloud) :
    (cloud.perform call).2.log = cloud.log ∧ (cloud.perform call).2.failures = cloud.failures := by
  cases call with
  | listRoles | createRole | listEndpoints => exact ⟨rfl, rfl⟩
  | authorizeRole | deauthorizeRole | createEndpoint | deleteEndpoint | getSettings | getOrg
  | updateOrg =>
      simp only [perform]
      split <;> exact ⟨rfl, rfl⟩

/-- Every call is logged, whether it fails or not. -/
theorem log_answer (call : Call) (cloud : MemoryCloud) :
    (answer call cloud).2.log = cloud.log ++ [call.operation] := by
  unfold answer
  cases cloud.orderedFailure? call.operation with
  | some detail => rfl
  | none => exact (log_failures_perform call _).1

/-- The log shows the calls of a program in their order. -/
theorem exists_logged_trace_of_run (program : CloudProgram α) (cloud : MemoryCloud) :
    ∃ exchanges, program.Trace exchanges (cloud.run program).1 ∧
      (cloud.run program).2.log =
        cloud.log ++ exchanges.map fun exchange => exchange.question.operation := by
  induction program generalizing cloud with
  | done value => exact ⟨[], .done value, (List.append_nil _).symm⟩
  | ask call next ih =>
      obtain ⟨exchanges, htrace, hlog⟩ := ih (answer call cloud).1 (answer call cloud).2
      refine ⟨⟨call, (answer call cloud).1⟩ :: exchanges, .ask _ htrace, hlog.trans ?_⟩
      rw [log_answer, List.append_assoc]
      rfl

theorem execution_bind_iff {program : CloudProgram α} {next : α → CloudProgram β} {value : β} :
    cloud.Execution (program.bind next) value after ↔
      ∃ middle between, cloud.Execution program middle between ∧
        between.Execution (next middle) value after := by
  constructor
  · rintro ⟨exchanges, htrace, hanswers⟩
    obtain ⟨first, second, middle, rfl, hfirst, hsecond⟩ := Program.trace_bind_iff.mp htrace
    obtain ⟨between, hleft, hright⟩ := answers_append_iff.mp hanswers
    exact ⟨middle, between, ⟨first, hfirst, hleft⟩, second, hsecond, hright⟩
  · rintro ⟨middle, between, ⟨first, hfirst, hleft⟩, second, hsecond, hright⟩
    exact ⟨first ++ second, hfirst.bind hsecond, answers_append_iff.mpr ⟨between, hleft, hright⟩⟩

/-- A program whose result is only changed afterwards. -/
theorem execution_map_iff {program : CloudProgram α} {change : α → β} {value : β} :
    cloud.Execution (program.bind fun result => .done (change result)) value after ↔
      ∃ result, cloud.Execution program result after ∧ value = change result := by
  unfold Execution
  simp only [Program.trace_map_iff]
  constructor
  · rintro ⟨exchanges, ⟨result, htrace, rfl⟩, hanswers⟩
    exact ⟨result, ⟨exchanges, htrace, hanswers⟩, rfl⟩
  · rintro ⟨result, ⟨exchanges, htrace, hanswers⟩, rfl⟩
    exact ⟨exchanges, ⟨result, htrace, rfl⟩, hanswers⟩

/-! ## What a call does to the roles -/

/-- Two clouds with the same roles that count on alike. -/
structure SameRoles (first second : MemoryCloud) : Prop where
  roles_eq : second.roles = first.roles
  created_eq : second.created = first.created

theorem SameRoles.rolesOf_eq {first second : MemoryCloud} (h : first.SameRoles second)
    (project : String) : second.rolesOf project = first.rolesOf project := by
  unfold rolesOf
  rw [h.roles_eq]

theorem SameRoles.trans {first second third : MemoryCloud} (hleft : first.SameRoles second)
    (hright : second.SameRoles third) : first.SameRoles third where
  roles_eq := hright.roles_eq.trans hleft.roles_eq
  created_eq := hright.created_eq.trans hleft.created_eq

theorem mem_rolesOf_iff {project : String} {role : Role} :
    role ∈ cloud.rolesOf project ↔ (project, role) ∈ cloud.roles := by
  simp [rolesOf]

/-- Whether calls of this kind never touch roles. -/
def leavesRoles : Operation → Bool
  | .listRoles | .createRole | .authorizeRole | .deauthorizeRole => false
  | _ => true

/-- What the roles are after a call with its reply. -/
inductive RolesAfter (cloud : MemoryCloud) : Exchange → MemoryCloud → Prop where
  | failed {after : MemoryCloud} (call : Call) (error : CloudError) :
      cloud.SameRoles after → RolesAfter cloud ⟨call, .error error⟩ after
  | listed {after : MemoryCloud} (project : String) :
      cloud.SameRoles after →
        RolesAfter cloud ⟨.listRoles project, .ok (cloud.rolesOf project)⟩ after
  | created {after : MemoryCloud} (project provider : String) :
      after.roles = cloud.roles ++ [(project, cloud.upcomingRole provider "")] →
      after.created = cloud.created + 1 →
        RolesAfter cloud ⟨.createRole project provider, .ok (cloud.upcomingRole provider "")⟩ after
  | authorized {after : MemoryCloud} {project : String} {role : Role} (arn : String) :
      (project, role) ∈ cloud.roles →
      after.roles = changeFirst (isRole project role.roleId role.provider)
        (fun entry => (entry.1, entry.2.granted arn)) cloud.roles →
      after.created = cloud.created →
        RolesAfter cloud
          ⟨.authorizeRole project role.roleId role.provider arn, .ok (role.granted arn)⟩ after
  | removed {after : MemoryCloud} {project : String} {role : Role} :
      (project, role) ∈ cloud.roles →
      after.roles =
        (cloud.roles.filter fun entry => !isRole project role.roleId role.provider entry) →
      after.created = cloud.created →
        RolesAfter cloud ⟨.deauthorizeRole project role.roleId role.provider, .ok ()⟩ after
  | foreign {exchange : Exchange} {after : MemoryCloud} :
      leavesRoles exchange.question.operation = true → cloud.SameRoles after →
        RolesAfter cloud exchange after

theorem RolesAfter.of_sameRoles {first second : MemoryCloud} (hsame : first.SameRoles second)
    {exchange : Exchange} (h : second.RolesAfter exchange after) :
    first.RolesAfter exchange after := by
  have hupcoming (provider arn : String) :
      second.upcomingRole provider arn = first.upcomingRole provider arn := by
    simp only [upcomingRole, hsame.created_eq]
  cases h with
  | failed call error h => exact .failed call error (hsame.trans h)
  | listed project h => exact hsame.rolesOf_eq project ▸ .listed project (hsame.trans h)
  | created project provider hroles hcreated =>
      rw [hupcoming] at hroles ⊢
      exact .created project provider (hsame.roles_eq ▸ hroles) (hsame.created_eq ▸ hcreated)
  | authorized arn hmem hroles hcreated =>
      exact .authorized arn (hsame.roles_eq ▸ hmem) (hsame.roles_eq ▸ hroles)
        (hsame.created_eq ▸ hcreated)
  | removed hmem hroles hcreated =>
      exact .removed (hsame.roles_eq ▸ hmem) (hsame.roles_eq ▸ hroles)
        (hsame.created_eq ▸ hcreated)
  | foreign hleaves h => exact .foreign hleaves (hsame.trans h)

@[simp] theorem isRole_eq_true_iff {project roleId provider : String} {entry : String × Role} :
    isRole project roleId provider entry = true ↔
      entry.1 = project ∧ entry.2.roleId = roleId ∧ entry.2.provider = provider := by
  simp [isRole, and_assoc]

/-- Every call of every kind does one of these things. -/
theorem rolesAfter_answer (call : Call) (cloud : MemoryCloud) :
    cloud.RolesAfter ⟨call, (answer call cloud).1⟩ (answer call cloud).2 := by
  unfold answer
  cases hfailure : cloud.orderedFailure? call.operation with
  | some detail => exact .failed call _ ⟨rfl, rfl⟩
  | none =>
      cases call with
      | listRoles project => exact .listed project ⟨rfl, rfl⟩
      | createRole project provider => exact .created project provider rfl rfl
      | authorizeRole project roleId provider arn =>
          simp only [perform]
          cases hfind : cloud.roles.find? (isRole project roleId provider) with
          | none => exact .failed _ _ ⟨rfl, rfl⟩
          | some entry =>
              obtain ⟨owner, role⟩ := entry
              obtain ⟨rfl, rfl, rfl⟩ := isRole_eq_true_iff.mp (List.find?_some hfind)
              exact .authorized arn (List.mem_of_find?_eq_some hfind) rfl rfl
      | deauthorizeRole project roleId provider =>
          simp only [perform]
          split
          case isTrue hany =>
            obtain ⟨⟨owner, role⟩, hmem, hentry⟩ := List.any_eq_true.mp hany
            obtain ⟨rfl, rfl, rfl⟩ := isRole_eq_true_iff.mp hentry
            exact .removed hmem rfl rfl
          case isFalse => exact .failed _ _ ⟨rfl, rfl⟩
      | listEndpoints => exact .foreign rfl ⟨rfl, rfl⟩
      | createEndpoint | deleteEndpoint | getSettings | getOrg | updateOrg =>
          simp only [perform]
          split <;> exact .foreign rfl ⟨rfl, rfl⟩

/-! ### Read from the reply -/

theorem RolesAfter.sameRoles_of_error {call : Call} {error : CloudError}
    (h : cloud.RolesAfter ⟨call, .error error⟩ after) : cloud.SameRoles after := by
  cases h with
  | failed _ _ hsame => exact hsame
  | foreign _ hsame => exact hsame

theorem RolesAfter.of_listed {project : String} {roles : List Role}
    (h : cloud.RolesAfter ⟨.listRoles project, .ok roles⟩ after) :
    roles = cloud.rolesOf project ∧ cloud.SameRoles after := by
  cases h with
  | listed _ hsame => exact ⟨rfl, hsame⟩
  | foreign hleaves _ => cases hleaves

theorem RolesAfter.of_created {project provider : String} {role : Role}
    (h : cloud.RolesAfter ⟨.createRole project provider, .ok role⟩ after) :
    role = cloud.upcomingRole provider "" ∧ after.roles = cloud.roles ++ [(project, role)] := by
  cases h with
  | created _ _ hroles _ => exact ⟨rfl, hroles⟩
  | foreign hleaves _ => cases hleaves

theorem RolesAfter.of_authorized {project roleId provider arn : String} {role : Role}
    (h : cloud.RolesAfter ⟨.authorizeRole project roleId provider arn, .ok role⟩ after) :
    ∃ old : Role, (project, old) ∈ cloud.roles ∧ old.roleId = roleId ∧ old.provider = provider ∧
      role = old.granted arn ∧
      after.roles = changeFirst (isRole project roleId provider)
        (fun entry => (entry.1, entry.2.granted arn)) cloud.roles := by
  cases h with
  | authorized _ hmem hroles _ => exact ⟨_, hmem, rfl, rfl, rfl, hroles⟩
  | foreign hleaves _ => cases hleaves

theorem RolesAfter.of_removed {project roleId provider : String}
    (h : cloud.RolesAfter ⟨.deauthorizeRole project roleId provider, .ok ()⟩ after) :
    ∃ old : Role, (project, old) ∈ cloud.roles ∧ old.roleId = roleId ∧ old.provider = provider ∧
      after.roles = cloud.roles.filter fun entry => !isRole project roleId provider entry := by
  cases h with
  | removed hmem hroles _ => exact ⟨_, hmem, rfl, rfl, hroles⟩
  | foreign hleaves _ => cases hleaves

/-! ### Several calls -/

theorem Answers.sameRoles (h : cloud.Answers [] after) : cloud.SameRoles after := by
  obtain ⟨failures, rfl⟩ := h.of_nil
  exact ⟨rfl, rfl⟩

/-- The first of several calls does one of these things, and then come the others. -/
theorem Answers.cons {exchange : Exchange} {rest : List Exchange}
    (h : cloud.Answers (exchange :: rest) after) :
    ∃ middle, cloud.RolesAfter exchange middle ∧ middle.Answers rest after := by
  obtain ⟨failures, hreply, hrest⟩ := h.uncons
  have hsame : cloud.SameRoles { cloud with failures } := ⟨rfl, rfl⟩
  have heffect := (rolesAfter_answer exchange.question { cloud with failures }).of_sameRoles hsame
  rw [← hreply] at heffect
  exact ⟨_, heffect, hrest⟩

/-- If the roles were listed first, they were those of the cloud, and still are. -/
theorem Answers.cons_listed {project : String} {roles : List Role} {rest : List Exchange}
    (h : cloud.Answers (⟨.listRoles project, .ok roles⟩ :: rest) after) :
    roles = cloud.rolesOf project ∧
      ∃ middle, cloud.SameRoles middle ∧ middle.Answers rest after := by
  obtain ⟨middle, heffect, hrest⟩ := h.cons
  obtain ⟨hroles, hsame⟩ := heffect.of_listed
  exact ⟨hroles, middle, hsame, hrest⟩

/-- What every call keeps, a whole run keeps. -/
theorem Answers.preserves (holds : MemoryCloud → Prop) (allowed : Exchange → Prop)
    (hsame : ∀ {first second : MemoryCloud}, first.SameRoles second → holds first → holds second)
    (hstep : ∀ {first second : MemoryCloud} {exchange : Exchange}, allowed exchange →
      first.RolesAfter exchange second → holds first → holds second)
    {exchanges : List Exchange} (h : cloud.Answers exchanges after)
    (hallowed : ∀ exchange ∈ exchanges, allowed exchange) (hcloud : holds cloud) :
    holds after := by
  induction exchanges generalizing cloud with
  | nil => exact hsame h.sameRoles hcloud
  | cons exchange rest ih =>
      obtain ⟨middle, heffect, hrest⟩ := h.cons
      obtain ⟨hfirst, hothers⟩ := List.forall_mem_cons.mp hallowed
      exact ih hrest hothers (hstep hfirst heffect hcloud)

end MemoryCloud

end CloudSteward
