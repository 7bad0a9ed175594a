import CloudSteward.Proofs.Integrations.Run

/-!
# The ledger of a run

A run drives statuses one after the other, and each of them has its turn: it adds a role,
gives one an `arn`, drops one, or leaves all as they are (`Change`).  A turn that failed, or
that was never reached, is one that left all as they are, so every part of a run is a list
of turns (`exists_changes_of_answers`).

The turns are about the roles of one project alone, and how many roles there are in the end
is a matter of counting them: `Changes.freeCount_eq` and `Changes.visibleCount_le` are the
books.  The first needs that every status that acts finds the role that it is for, each
another one (`Targeted`), which every turn keeps for the statuses behind it.
-/

namespace CloudSteward

namespace MemoryCloud

/-! ## One entry among the others -/

section Split

variable {α : Type} {test : α → Bool} {change : α → α} {entry other : α} {front back : List α}

theorem mem_split_iff : other ∈ front ++ entry :: back ↔ other = entry ∨ other ∈ front ++ back :=
  List.perm_middle.mem_iff.trans List.mem_cons

theorem changeFirst_append (hfront : ∀ other ∈ front, test other = false)
    (hentry : test entry = true) :
    changeFirst test change (front ++ entry :: back) = front ++ change entry :: back := by
  induction front with
  | nil => simp [changeFirst, hentry]
  | cons first rest ih =>
      obtain ⟨hfirst, hothers⟩ := List.forall_mem_cons.mp hfront
      simp [changeFirst, hfirst, ih hothers]

theorem filter_not_append (hothers : ∀ other ∈ front ++ back, test other = false)
    (hentry : test entry = true) :
    ((front ++ entry :: back).filter fun other => !test other) = front ++ back := by
  obtain ⟨hfront, hback⟩ := List.forall_mem_append.mp hothers
  rw [List.filter_append, List.filter_cons_of_neg (by simp [hentry]), List.filter_eq_self.mpr,
    List.filter_eq_self.mpr]
  · intro other hother
    simp [hback other hother]
  · intro other hother
    simp [hfront other hother]

end Split

variable {cloud after : MemoryCloud} {project : String} {role : Role}

/-- The roles of a project among some entries. -/
def rolesAmong (project : String) (entries : List (String × Role)) : List Role :=
  (entries.filter fun entry => entry.1 = project).map Prod.snd

theorem rolesAmong_append (project : String) (front back : List (String × Role)) :
    rolesAmong project (front ++ back) = rolesAmong project front ++ rolesAmong project back := by
  unfold rolesAmong
  rw [List.filter_append, List.map_append]

theorem rolesAmong_cons_self (project : String) (role : Role) (rest : List (String × Role)) :
    rolesAmong project ((project, role) :: rest) = role :: rolesAmong project rest := by
  simp [rolesAmong]

theorem rolesOf_of_roles_eq {entries : List (String × Role)} (h : cloud.roles = entries) :
    cloud.rolesOf project = rolesAmong project entries := by
  rw [← h]
  rfl

/-- No other entry is mistaken for a role that is there. -/
theorem Numbered.exists_split (h : cloud.Numbered) (hrole : (project, role) ∈ cloud.roles)
    (provider : String) :
    ∃ front back, cloud.roles = front ++ (project, role) :: back ∧
      ∀ other ∈ front ++ back, isRole project role.roleId provider other = false := by
  obtain ⟨front, back, hsplit⟩ := List.append_of_mem hrole
  refine ⟨front, back, hsplit, fun other hother => ?_⟩
  have hdistinct := h.distinct
  rw [hsplit, (List.perm_middle.map _).nodup_iff, List.map_cons, List.nodup_cons] at hdistinct
  have hid : other.2.roleId ≠ role.roleId :=
    fun heq => hdistinct.1 (heq ▸ List.mem_map_of_mem hother)
  simp [isRole, hid]

end MemoryCloud

namespace Integrations

open MemoryCloud

/-! ## Turns -/

/-- A status when it was its turn, and the move that it made: its own, or none. -/
structure Turn where
  status : Status
  made : Move

/-- What a turn makes of the roles of a project. -/
inductive Change : List Role → Turn → List Role → Prop where
  | kept (status : Status) (roles : List Role) : Change roles ⟨status, .rest⟩ roles
  | added {status : Status} {roles : List Role} (role : Role) : move status = .create →
      role.provider = status.provider → role.arn = "" →
      role.roleId ∉ roles.map Role.roleId →
        Change roles ⟨status, .create⟩ (roles ++ [role])
  | granted {status : Status} {front back : List Role} (role : Role) :
      move status = .authorize → role.roleId = status.roleId →
      role.provider = status.provider →
        Change (front ++ role :: back) ⟨status, .authorize⟩
          (front ++ role.granted status.arn :: back)
  | dropped {status : Status} {front back : List Role} (role : Role) :
      move status = .remove → role.roleId = status.roleId →
        Change (front ++ role :: back) ⟨status, .remove⟩ (front ++ back)

/-- What several turns make of the roles of a project. -/
inductive Changes : List Role → List Turn → List Role → Prop where
  | done (roles : List Role) : Changes roles [] roles
  | turn {roles middle after : List Role} {turn : Turn} {rest : List Turn} :
      Change roles turn middle → Changes middle rest after → Changes roles (turn :: rest) after

theorem changes_rest (roles : List Role) (statuses : List Status) :
    Changes roles (statuses.map fun status => ⟨status, .rest⟩) roles := by
  induction statuses with
  | nil => exact .done roles
  | cons status rest ih => exact .turn (.kept status roles) ih

/-! ### Turns of a run -/

section Cloud

variable {cloud after : MemoryCloud} {project provider : String} {status : Status}
  {role : Role} {statuses outputs : List Status} {first second : List Exchange}

theorem change_of_created (hnumbered : cloud.Numbered) (hmove : move status = .create)
    (hroles : after.roles = cloud.roles ++ [(project, cloud.upcomingRole status.provider "")]) :
    Change (cloud.rolesOf project) ⟨status, .create⟩ (after.rolesOf project) := by
  rw [rolesOf_of_roles_eq hroles, rolesAmong_append, rolesAmong_cons_self]
  refine .added _ hmove rfl rfl fun hmem => ?_
  obtain ⟨other, hother, hid⟩ := List.mem_map.mp hmem
  exact hnumbered.upcoming_fresh (mem_rolesOf_iff.mp hother) status.provider "" hid

theorem change_of_authorized (hnumbered : cloud.Numbered) (hmove : move status = .authorize)
    (hrole : (project, role) ∈ cloud.roles) (hid : role.roleId = status.roleId)
    (hprovider : role.provider = status.provider)
    (hroles : after.roles = changeFirst (isRole project status.roleId status.provider)
      (fun entry => (entry.1, entry.2.granted status.arn)) cloud.roles) :
    Change (cloud.rolesOf project) ⟨status, .authorize⟩ (after.rolesOf project) := by
  obtain ⟨front, back, hsplit, hothers⟩ := hnumbered.exists_split hrole status.provider
  rw [hsplit, changeFirst_append] at hroles
  · rw [rolesOf_of_roles_eq hsplit, rolesOf_of_roles_eq hroles, rolesAmong_append,
      rolesAmong_append, rolesAmong_cons_self, rolesAmong_cons_self]
    exact .granted role hmove hid hprovider
  · rw [← hid]
    exact (List.forall_mem_append.mp hothers).1
  · exact isRole_eq_true_iff.mpr ⟨rfl, hid, hprovider⟩

theorem change_of_removed (hnumbered : cloud.Numbered) (hmove : move status = .remove)
    (hrole : (project, role) ∈ cloud.roles) (hid : role.roleId = status.roleId)
    (hprovider : role.provider = status.provider)
    (hroles : after.roles =
      cloud.roles.filter fun entry => !isRole project status.roleId status.provider entry) :
    Change (cloud.rolesOf project) ⟨status, .remove⟩ (after.rolesOf project) := by
  obtain ⟨front, back, hsplit, hothers⟩ := hnumbered.exists_split hrole status.provider
  rw [hsplit, filter_not_append] at hroles
  · rw [rolesOf_of_roles_eq hsplit, rolesOf_of_roles_eq hroles, rolesAmong_append,
      rolesAmong_append, rolesAmong_cons_self]
    exact .dropped role hmove hid
  · rw [← hid]
    exact hothers
  · exact isRole_eq_true_iff.mpr ⟨rfl, hid, hprovider⟩

/-- A step is a turn of its status. -/
theorem StepEffect.exists_change {output : Option Status}
    (h : StepEffect cloud project status output after) (hnumbered : cloud.Numbered) :
    ∃ made, Change (cloud.rolesOf project) ⟨status, made⟩ (after.rolesOf project) := by
  cases h with
  | rested _ hsame => exact ⟨.rest, hsame.rolesOf_eq project ▸ .kept _ _⟩
  | failed _ _ _ hsame => exact ⟨.rest, hsame.rolesOf_eq project ▸ .kept _ _⟩
  | created hmove hroles => exact ⟨.create, change_of_created hnumbered hmove hroles⟩
  | authorized role hmove hrole hid hprovider hroles =>
      exact ⟨.authorize, change_of_authorized hnumbered hmove hrole hid hprovider hroles⟩
  | removed role hmove hrole hid hprovider hroles =>
      exact ⟨.remove, change_of_removed hnumbered hmove hrole hid hprovider hroles⟩

theorem Stepped.length_le_one {exchanges : List Exchange} {output : Option Status}
    (h : Stepped project status exchanges output) : exchanges.length ≤ 1 := by
  cases h <;> simp

/-- Whatever part of a run has happened, it was turns of the statuses. -/
theorem exists_changes_of_answers (hnumbered : cloud.Numbered)
    (htrace : (stepAll project statuses).Trace (first ++ second) outputs)
    (hanswers : cloud.Answers first after) :
    ∃ turns, turns.map Turn.status = statuses ∧
      Changes (cloud.rolesOf project) turns (after.rolesOf project) := by
  induction statuses generalizing cloud first outputs with
  | nil =>
      obtain ⟨hnone, _⟩ := Program.trace_done_iff.mp htrace
      obtain ⟨rfl, rfl⟩ := List.append_eq_nil_iff.mp hnone
      exact ⟨[], rfl, hanswers.sameRoles.rolesOf_eq project ▸ .done _⟩
  | cons status rest ih =>
      by_cases hfirst : first = []
      · -- Nothing has happened yet.
        subst hfirst
        refine ⟨(status :: rest).map fun status => ⟨status, .rest⟩, ?_, ?_⟩
        · rw [List.map_map]
          exact List.map_id _
        · rw [hanswers.sameRoles.rolesOf_eq project]
          exact changes_rest _ _
      · obtain ⟨own, behind, output, others, hsplit, _, hstep, hrest⟩ :=
          trace_stepAll_cons_iff.mp htrace
        -- A step makes one call at most, so all of the first one has happened.
        have hown : own <+: first := by
          refine List.prefix_of_prefix_length_le (hsplit ▸ List.prefix_append own behind)
            (List.prefix_append first second) ?_
          exact Nat.le_trans (trace_step hstep).length_le_one (List.length_pos_iff.mpr hfirst)
        obtain ⟨others_first, rfl⟩ := hown
        rw [List.append_assoc, List.append_cancel_left_eq] at hsplit
        obtain ⟨middle, hleft, hright⟩ := answers_append_iff.mp hanswers
        have hexecution : cloud.Execution (step project status) output middle :=
          ⟨own, hstep, hleft⟩
        obtain ⟨made, hchange⟩ := (stepEffect_of_execution hexecution).exists_change hnumbered
        obtain ⟨turns, hturns, hchanges⟩ :=
          ih (hnumbered.execution hexecution) (hsplit ▸ hrest) hright
        exact ⟨⟨status, made⟩ :: turns, congrArg (status :: ·) hturns, .turn hchange hchanges⟩

end Cloud

/-! ## What turns keep -/

section Keep

variable {roles middle after : List Role} {turn : Turn} {turns : List Turn} {role : Role}

theorem Change.nodup (h : Change roles turn after) (hdistinct : (roles.map Role.roleId).Nodup) :
    (after.map Role.roleId).Nodup := by
  cases h with
  | kept => exact hdistinct
  | added role _ _ _ hfresh =>
      rw [List.map_append, List.nodup_append]
      refine ⟨hdistinct, List.nodup_singleton _, fun id hid other hother heq => hfresh ?_⟩
      rw [← List.mem_singleton.mp hother, ← heq]
      exact hid
  | granted role => simpa [Role.granted] using hdistinct
  | @dropped status front back role =>
      have hsublist : (front ++ back).Sublist (front ++ role :: back) :=
        (List.Sublist.refl front).append (List.sublist_cons_self role back)
      exact hdistinct.sublist (hsublist.map _)

/-- A turn keeps the roles that its status does not act on. -/
theorem Change.mem_of_ne (h : Change roles turn after) (hrole : role ∈ roles)
    (hne : acts turn.status = true → turn.status.roleId ≠ role.roleId) : role ∈ after := by
  cases h with
  | kept => exact hrole
  | added => exact List.mem_append_left _ hrole
  | granted old hmove hid =>
      rcases mem_split_iff.mp hrole with rfl | hother
      · exact absurd hid.symm (hne (by simp [acts, hmove]))
      · exact mem_split_iff.mpr (.inr hother)
  | dropped old hmove hid =>
      rcases mem_split_iff.mp hrole with rfl | hother
      · exact absurd hid.symm (hne (by simp [acts, hmove]))
      · exact hother

theorem Changes.mem_of_ne (h : Changes roles turns after) (hrole : role ∈ roles)
    (hne : ∀ turn ∈ turns, acts turn.status = true → turn.status.roleId ≠ role.roleId) :
    role ∈ after := by
  induction h with
  | done => exact hrole
  | turn hchange _ ih =>
      obtain ⟨hfirst, hothers⟩ := List.forall_mem_cons.mp hne
      exact ih (hchange.mem_of_ne hrole hfirst) hothers

/-- A role that is there after a turn was there before, or is what the turn made. -/
theorem Change.mem_cases (h : Change roles turn after) (hrole : role ∈ after) :
    role ∈ roles ∨
      (turn.made = .create ∧ role.provider = turn.status.provider ∧ role.arn = "") ∨
      (turn.made = .authorize ∧ role.provider = turn.status.provider ∧
        role.arn = turn.status.arn) := by
  cases h with
  | kept => exact .inl hrole
  | added new _ hprovider harn =>
      rcases List.mem_append.mp hrole with hold | hnew
      · exact .inl hold
      · obtain rfl := List.mem_singleton.mp hnew
        exact .inr (.inl ⟨rfl, hprovider, harn⟩)
  | granted old _ _ hprovider =>
      rcases mem_split_iff.mp hrole with rfl | hother
      · exact .inr (.inr ⟨rfl, hprovider, rfl⟩)
      · exact .inl (mem_split_iff.mpr (.inr hother))
  | dropped => exact .inl (mem_split_iff.mpr (.inr hrole))

theorem Changes.mem_cases (h : Changes roles turns after) (hrole : role ∈ after) :
    role ∈ roles ∨ ∃ turn ∈ turns, role.provider = turn.status.provider ∧
      ((turn.made = .create ∧ role.arn = "") ∨
        (turn.made = .authorize ∧ role.arn = turn.status.arn)) := by
  induction h with
  | done => exact .inl hrole
  | turn hchange _ ih =>
      rcases ih hrole with hmiddle | ⟨turn, hturn, hmade⟩
      · rcases hchange.mem_cases hmiddle with
          hbefore | ⟨hmade, hprovider, harn⟩ | ⟨hmade, hprovider, harn⟩
        · exact .inl hbefore
        · exact .inr ⟨_, List.mem_cons_self, hprovider, .inl ⟨hmade, harn⟩⟩
        · exact .inr ⟨_, List.mem_cons_self, hprovider, .inr ⟨hmade, harn⟩⟩
      · exact .inr ⟨turn, List.mem_cons_of_mem _ hturn, hmade⟩

/-- What was made is what the status asks for, if anything was. -/
theorem Changes.made_cases (h : Changes roles turns after) :
    ∀ turn ∈ turns, turn.made = .rest ∨ turn.made = move turn.status := by
  induction h with
  | done => exact List.forall_mem_nil _
  | turn hchange _ ih =>
      refine List.forall_mem_cons.mpr ⟨?_, ih⟩
      cases hchange with
      | kept => exact .inl rfl
      | added _ hmove => exact .inr hmove.symm
      | granted _ hmove => exact .inr hmove.symm
      | dropped _ hmove => exact .inr hmove.symm

/-- Without a creation no new identifier appears. -/
theorem Changes.exists_roleId (h : Changes roles turns after)
    (hcreate : ∀ turn ∈ turns, turn.made ≠ .create) (hrole : role ∈ after) :
    ∃ old ∈ roles, old.roleId = role.roleId := by
  induction h with
  | done => exact ⟨role, hrole, rfl⟩
  | turn hchange _ ih =>
      obtain ⟨hfirst, hothers⟩ := List.forall_mem_cons.mp hcreate
      obtain ⟨old, hold, hid⟩ := ih hothers hrole
      cases hchange with
      | kept => exact ⟨old, hold, hid⟩
      | added => exact absurd rfl hfirst
      | granted before =>
          rcases mem_split_iff.mp hold with rfl | hother
          · exact ⟨before, mem_split_iff.mpr (.inl rfl), hid⟩
          · exact ⟨old, mem_split_iff.mpr (.inr hother), hid⟩
      | dropped => exact ⟨old, mem_split_iff.mpr (.inr hold), hid⟩

/-- A role that was dropped does not come back unless roles are created. -/
theorem Changes.roleId_ne_of_dropped (h : Changes roles turns after)
    (hdistinct : (roles.map Role.roleId).Nodup) (hcreate : ∀ turn ∈ turns, turn.made ≠ .create)
    (hturn : turn ∈ turns) (hmade : turn.made = .remove) :
    ∀ role ∈ after, role.roleId ≠ turn.status.roleId := by
  induction h with
  | done => cases hturn
  | @turn roles middle after first rest hchange hrest ih =>
      have hothers := (List.forall_mem_cons.mp hcreate).2
      rcases List.mem_cons.mp hturn with rfl | hlater
      · cases hchange with
        | kept => cases hmade
        | added => cases hmade
        | granted => cases hmade
        | dropped old hmove hid =>
            -- A role with this id later on would have had it beside the one that was dropped.
            intro role hrole heq
            obtain ⟨other, hother, hsame⟩ := hrest.exists_roleId hothers hrole
            rw [(List.perm_middle.map _).nodup_iff, List.map_cons, List.nodup_cons] at hdistinct
            exact hdistinct.1 (hid.trans (heq.symm.trans hsame.symm) ▸ List.mem_map_of_mem hother)
      · exact ih (hchange.nodup hdistinct) hothers hlater

end Keep

/-! ## Turns that find their roles -/

/-- Every status that acts finds the role it is for, each another one.  It authorizes only
roles without an `arn`, and what it removes is as it says. -/
structure Targeted (roles : List Role) (statuses : List Status) : Prop where
  distinct : (roles.map Role.roleId).Nodup
  apart : ((statuses.filter acts).map Status.roleId).Nodup
  aimed : ∀ status ∈ statuses, acts status = true → ∃ role ∈ roles,
    role.roleId = status.roleId ∧ (move status = .authorize → role.arn = "") ∧
      (move status = .remove → role.arn = status.arn)

section Targeted

variable {roles middle after : List Role} {turn : Turn} {turns : List Turn} {status : Status}
  {statuses : List Status}

/-- The statuses behind one that acts do so on other roles. -/
theorem Targeted.roleId_ne (h : Targeted roles (status :: statuses)) (hacts : acts status = true) :
    ∀ other ∈ statuses, acts other = true → other.roleId ≠ status.roleId :=
  roleId_ne_of_nodup_acting_cons h.apart hacts

/-- After a turn the other statuses still find their roles. -/
theorem Targeted.step (h : Targeted roles (turn.status :: statuses))
    (hchange : Change roles turn middle) : Targeted middle statuses where
  distinct := hchange.nodup h.distinct
  apart := nodup_of_nodup_acting_cons h.apart
  aimed other hother hacts := by
    obtain ⟨role, hrole, hid, hfacts⟩ := h.aimed other (List.mem_cons_of_mem _ hother) hacts
    refine ⟨role, hchange.mem_of_ne hrole fun hfirst heq => ?_, hid, hfacts⟩
    exact h.roleId_ne hfirst other hother hacts (hid.symm.trans heq.symm)

/-- The role that a status names is the one that it is for. -/
theorem Targeted.facts (h : Targeted roles (status :: statuses)) (hacts : acts status = true)
    {role : Role} (hrole : role ∈ roles) (hid : role.roleId = status.roleId) :
    (move status = .authorize → role.arn = "") ∧
      (move status = .remove → role.arn = status.arn) := by
  obtain ⟨other, hother, hsame, hfacts⟩ := h.aimed status List.mem_cons_self hacts
  rwa [List.inj_on_of_nodup_map h.distinct hrole hother (hid.trans hsame.symm)]

/-- A role that got an `arn` has it in the end. -/
theorem Changes.exists_granted (h : Changes roles turns after)
    (htargeted : Targeted roles (turns.map Turn.status)) (hturn : turn ∈ turns)
    (hmade : turn.made = .authorize) :
    ∃ role ∈ after, role.provider = turn.status.provider ∧ role.arn = turn.status.arn := by
  induction h with
  | done => cases hturn
  | @turn roles middle after first rest hchange hrest ih =>
      rcases List.mem_cons.mp hturn with rfl | hlater
      · cases hchange with
        | kept => cases hmade
        | added => cases hmade
        | dropped => cases hmade
        | @granted status front back role hmove hid hprovider =>
            -- The statuses behind act on other roles, so this one stays as it is.
            refine ⟨role.granted status.arn, hrest.mem_of_ne (by simp) ?_, hprovider, rfl⟩
            intro other hother hacts heq
            exact htargeted.roleId_ne (by simp [acts, hmove]) other.status
              (List.mem_map_of_mem hother) hacts (heq.trans hid)
      · exact ih (htargeted.step hchange) hlater

/-! ## The books -/

/-- How many roles have no `arn`. -/
def freeCount (roles : List Role) : Nat :=
  roles.countP fun role => role.arn = ""

/-- How many roles have one. -/
def visibleCount (roles : List Role) : Nat :=
  roles.countP fun role => role.arn ≠ ""

/-- How many turns made a move. -/
def madeCount (kind : Move) (turns : List Turn) : Nat :=
  turns.countP fun turn => turn.made = kind

/-- How many turns dropped a role without an `arn`. -/
def freedCount (turns : List Turn) : Nat :=
  turns.countP fun turn => turn.made = .remove ∧ turn.status.arn = ""

theorem freeCount_nil : freeCount [] = 0 := rfl

theorem freeCount_append (front back : List Role) :
    freeCount (front ++ back) = freeCount front + freeCount back :=
  List.countP_append

theorem freeCount_cons (role : Role) (rest : List Role) :
    freeCount (role :: rest) = freeCount rest + if role.arn = "" then 1 else 0 := by
  simp [freeCount, List.countP_cons]

theorem visibleCount_nil : visibleCount [] = 0 := rfl

theorem visibleCount_append (front back : List Role) :
    visibleCount (front ++ back) = visibleCount front + visibleCount back :=
  List.countP_append

theorem visibleCount_cons (role : Role) (rest : List Role) :
    visibleCount (role :: rest) = visibleCount rest + if role.arn = "" then 0 else 1 := by
  simp [visibleCount, List.countP_cons]

theorem madeCount_cons (kind : Move) (turn : Turn) (rest : List Turn) :
    madeCount kind (turn :: rest) = madeCount kind rest + if turn.made = kind then 1 else 0 := by
  simp [madeCount, List.countP_cons]

theorem freedCount_cons (turn : Turn) (rest : List Turn) :
    freedCount (turn :: rest) =
      freedCount rest + if turn.made = .remove ∧ turn.status.arn = "" then 1 else 0 := by
  simp [freedCount, List.countP_cons]

theorem freeCount_add_visibleCount (roles : List Role) :
    freeCount roles + visibleCount roles = roles.length := by
  unfold freeCount visibleCount
  rw [List.length_eq_countP_add_countP (fun role : Role => role.arn = "")]
  simp

/-- Roles without an `arn` are created, and are authorized or dropped. -/
theorem Changes.freeCount_eq (h : Changes roles turns after)
    (htargeted : Targeted roles (turns.map Turn.status)) :
    freeCount after + madeCount .authorize turns + freedCount turns =
      freeCount roles + madeCount .create turns := by
  induction h with
  | done => rfl
  | @turn roles middle after first rest hchange _ ih =>
      have hrest := ih (htargeted.step hchange)
      simp only [madeCount_cons, freedCount_cons]
      cases hchange with
      | kept status => simpa using hrest
      | added role _ _ harn =>
          rw [freeCount_append, freeCount_cons, freeCount_nil, if_pos harn] at hrest
          simp only [reduceCtorEq, if_false, if_true, false_and]
          omega
      | @granted status front back role hmove hid =>
          have hfree : role.arn = "" :=
            (htargeted.facts (by simp [acts, hmove]) (by simp) hid).1 hmove
          have hgranted : (role.granted status.arn).arn ≠ "" := arn_ne_of_move hmove
          rw [freeCount_append, freeCount_cons, if_neg hgranted] at hrest
          rw [freeCount_append, freeCount_cons, if_pos hfree]
          simp only [reduceCtorEq, if_false, if_true, false_and]
          omega
      | @dropped status front back role hmove hid =>
          have hsame : role.arn = status.arn :=
            (htargeted.facts (by simp [acts, hmove]) (by simp) hid).2 hmove
          rw [freeCount_append] at hrest
          rw [freeCount_append, freeCount_cons, hsame]
          simp only [reduceCtorEq, if_false, true_and]
          omega

/-- Only an authorization makes a role visible. -/
theorem Changes.visibleCount_le (h : Changes roles turns after) :
    visibleCount after ≤ visibleCount roles + madeCount .authorize turns := by
  induction h with
  | done => exact Nat.le_refl _
  | @turn roles middle after first rest hchange _ ih =>
      have hmiddle : visibleCount middle ≤
          visibleCount roles + if first.made = .authorize then 1 else 0 := by
        cases hchange with
        | kept => exact Nat.le_refl _
        | added role _ _ harn =>
            rw [visibleCount_append, visibleCount_cons, visibleCount_nil, if_pos harn]
            exact Nat.le_add_right _ _
        | granted role =>
            rw [visibleCount_append, visibleCount_append, visibleCount_cons, visibleCount_cons,
              if_pos rfl]
            split_ifs <;> omega
        | dropped role =>
            rw [visibleCount_append, visibleCount_append, visibleCount_cons]
            omega
      rw [madeCount_cons]
      omega

end Targeted

end Integrations

end CloudSteward
