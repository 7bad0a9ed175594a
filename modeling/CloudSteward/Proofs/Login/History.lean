import CloudSteward.Proofs.Applied
import CloudSteward.Proofs.Cloud.Logins
import CloudSteward.Proofs.Login.Gate

/-!
# How a login comes to be recorded

Protection trusts the record of what was applied last, and the record is written after
every pass that is fine.  There are three ways to be fine: the config was as declared,
it was updated, or the login was disabled and nothing was done at all.  Over a login
that was never recorded, a protected pass cannot go the second way, as nobody changes
the config while it looks; so the first record is written by a pass of one of the
other two kinds (`Granted`), and only then can a pass update the config.

The other kind is a loophole: in the run of `history_enabledVisit` a foreign config is
overwritten that no pass ever found as declared.
-/

namespace CloudSteward.Login

open MemoryCloud

/-! ## Runs -/

/-- A pass over a login, the calls it made with the replies to them, and what it gave. -/
structure Visit where
  auth : FederatedAuth
  exchanges : List Exchange
  reconciled : Reconciled FederatedAuth

/-- The protected passes over a login so far, oldest first, with the login and the cloud
as they are now.  Between passes the login may be edited, but not its record, and the
cloud may change, but not its federation settings and configs. -/
inductive History (org : Option String) : List Visit → FederatedAuth → MemoryCloud → Prop where
  | start {auth : FederatedAuth} {cloud : MemoryCloud} : auth.metadata.hasApplied = false →
      History org [] auth cloud
  | edit {visits : List Visit} {auth edited : FederatedAuth} {cloud : MemoryCloud} :
      History org visits auth cloud →
      edited.metadata.hasApplied = auth.metadata.hasApplied → History org visits edited cloud
  | elapse {visits : List Visit} {auth : FederatedAuth} {cloud later : MemoryCloud} :
      History org visits auth cloud → cloud.SameLogins later → History org visits auth later
  | pass {visits : List Visit} {auth : FederatedAuth} {cloud after : MemoryCloud} {now : Moment}
      {exchanges : List Exchange} {reconciled : Reconciled FederatedAuth} :
      History org visits auth cloud → (auth.reconcile now org true).Trace exchanges reconciled →
      cloud.Answers exchanges after →
        History org (visits ++ [⟨auth, exchanges, reconciled⟩]) reconciled.resource after

variable {now : Moment} {auth : FederatedAuth} {org : Option String} {conditions : Conditions}
  {cloud after : MemoryCloud} {id : String} {exchanges : List Exchange}
  {reconciled : Reconciled FederatedAuth} {outcome : PassResult × Conditions}
  {visits earlier later : List Visit} {visit : Visit}

/-- A pass over an enabled login found the config as declared when it looked first. -/
def FoundEqual (auth : FederatedAuth) (org : Option String) (exchanges : List Exchange) : Prop :=
  ∃ id, Configured auth org id ∧ ∃ settings config, look id settings config <+: exchanges ∧
    auth.spec.matches id config = true

/-- A pass that was fine without changing anything: the login was disabled, or the config
was found as declared. -/
structure Granted (org : Option String) (visit : Visit) : Prop where
  attended : visit.auth.metadata.isSkipped = false
  fine : visit.reconciled.result.isOk = true
  cause : visit.auth.spec.enabled = false ∨ FoundEqual visit.auth org visit.exchanges

/-! ## The first record -/

/-- A protected pass over a login without a record is fine only if the login is disabled
or the config is found as declared. -/
theorem Course.cause_of_isOk (h : Course now auth org true conditions exchanges outcome)
    (hunrecorded : auth.metadata.hasApplied = false) (hok : outcome.1.isOk = true) :
    auth.spec.enabled = false ∨ FoundEqual auth org exchanges := by
  cases h with
  | disabled hdisabled => exact .inl hdisabled
  | unconfigured => cases hok
  | undecided => cases hok
  | refused => cases hok
  | @adopted id first second view result hconfigured _ hfetched hagrees _ =>
      obtain ⟨settings, config, rfl, rfl⟩ := fetched_ok_iff.mp hfetched
      exact .inr ⟨id, hconfigured, settings, config, List.prefix_append _ _, hagrees⟩
  | direct _ hexempt _ => exact absurd (hexempt.symm.trans hunrecorded) (by decide)

/-- After a pass there is a record if there was one or the pass was fine. -/
theorem hasApplied_after_iff (h : (auth.reconcile now org true).Trace exchanges reconciled) :
    reconciled.resource.metadata.hasApplied = true ↔ auth.metadata.hasApplied = true ∨
      (auth.metadata.isSkipped = false ∧ reconciled.result.isOk = true) := by
  rcases FederatedAuth.trace_reconcile_iff.mp h with
    ⟨hskipped, _, rfl⟩ | ⟨hattended, outcome, _, rfl⟩
  · simp [Reconciled.skipped, hskipped]
  · cases hok : outcome.1.isOk <;>
      simp [FederatedAuth.after, hok, hattended, Metadata.hasApplied_setApplied]

/-- A login has a record exactly if a pass of the run was of a kind that grants one. -/
theorem History.hasApplied_iff (h : History org visits auth cloud) :
    auth.metadata.hasApplied = true ↔ ∃ visit ∈ visits, Granted org visit := by
  induction h with
  | start hunrecorded => simp [hunrecorded]
  | edit _ hrecord ih => rw [hrecord, ih]
  | elapse _ _ ih => exact ih
  | @pass visits auth cloud after now exchanges reconciled _ htrace _ ih =>
      rw [hasApplied_after_iff htrace]
      constructor
      · intro hrecorded
        by_cases hbefore : auth.metadata.hasApplied = true
        · obtain ⟨visit, hvisit, hgranted⟩ := ih.mp hbefore
          exact ⟨visit, List.mem_append_left _ hvisit, hgranted⟩
        · obtain ⟨hattended, hok⟩ := hrecorded.resolve_left hbefore
          refine ⟨_, List.mem_append_right _ List.mem_cons_self, hattended, hok, ?_⟩
          -- Without a record the pass was not exempt, so it was fine for one of the other reasons.
          rcases FederatedAuth.trace_reconcile_iff.mp htrace with
            ⟨hskipped, _, _⟩ | ⟨_, outcome, hcourse, rfl⟩
          · exact absurd (hskipped.symm.trans hattended) (by decide)
          · exact hcourse.cause_of_isOk (Bool.not_eq_true _ ▸ hbefore) hok
      · rintro ⟨visit, hvisit, hgranted⟩
        rcases List.mem_append.mp hvisit with hearlier | hlast
        · exact .inl (ih.mpr ⟨visit, hearlier, hgranted⟩)
        · obtain rfl := List.mem_singleton.mp hlast
          exact .inr ⟨hgranted.attended, hgranted.fine⟩

/-! ## Updates -/

/-- A look at the config shows what the cloud has, and changes nothing of it. -/
theorem answers_look {settings : FederationSettings} {config : ConnectedOrg} {rest : List Exchange}
    (h : cloud.Answers (look id settings config ++ rest) after) :
    cloud.settings.get? id = some settings ∧ cloud.orgOf? settings.id id = some config ∧
      ∃ middle, cloud.SameLogins middle ∧ middle.Answers rest after := by
  obtain ⟨settled, hsettled, hrest⟩ := h.loginsAfter_cons
  obtain ⟨middle, hread, hrest⟩ := hrest.loginsAfter_cons
  obtain ⟨hsettings, hfirst⟩ := hsettled.of_settled
  obtain ⟨hconfig, hsecond⟩ := hread.of_read
  exact ⟨hsettings, hfirst.orgOf?_eq _ _ ▸ hconfig, middle, hfirst.trans hsecond, hrest⟩

/-- In a cloud that nobody else changes, both looks of a pass show the same, so only
a login with a record is updated. -/
theorem hasApplied_of_updates (h : Course now auth org true conditions exchanges outcome)
    (hanswers : cloud.Answers exchanges after) (hupdates : Updates exchanges) :
    auth.metadata.hasApplied = true := by
  obtain ⟨id, _, settings, config, reply, hdiffers, hcases⟩ := h.exists_correction hupdates
  rcases hcases with ⟨hexempt, _⟩ | ⟨_, before, checked, hmatches, rfl⟩
  · exact hexempt
  · -- Both looks are told the same settings, and then the same config.
    obtain ⟨hbefore, hchecked, middle, hsame, hrest⟩ := answers_look hanswers
    obtain ⟨hsettings, hconfig, _⟩ := answers_look hrest
    rw [hsame.settings_eq, hbefore, Option.some.injEq] at hsettings
    subst hsettings
    rw [hsame.orgOf?_eq, hchecked, Option.some.injEq] at hconfig
    subst hconfig
    exact absurd (hmatches.symm.trans hdiffers) (by decide)

/-- Every pass of a run follows the run so far. -/
theorem History.split (h : History org visits auth cloud)
    (hvisits : visits = earlier ++ visit :: later) :
    ∃ before now after, History org earlier visit.auth before ∧
      (visit.auth.reconcile now org true).Trace visit.exchanges visit.reconciled ∧
      before.Answers visit.exchanges after := by
  induction h generalizing later with
  | start => simp at hvisits
  | edit _ _ ih => exact ih hvisits
  | elapse _ _ ih => exact ih hvisits
  | @pass visits auth cloud after now exchanges reconciled hrun htrace hanswers ih =>
      -- Either the pass is the last one, or it is one of the run before the last one.
      rcases List.eq_nil_or_concat later with rfl | ⟨others, last, rfl⟩
      · obtain ⟨rfl, hlast⟩ := List.append_inj' hvisits rfl
        obtain rfl := List.singleton_inj.mp hlast
        exact ⟨cloud, now, after, hrun, htrace, hanswers⟩
      · rw [List.concat_eq_append, ← List.cons_append, ← List.append_assoc] at hvisits
        exact ih (List.append_inj' hvisits rfl).1

/-- If a pass of a run of protected passes updates the config, then an earlier one was
fine that was made over the login while it was disabled, or that found the config as
declared. -/
theorem granted_of_updates (h : History org visits auth cloud)
    (hvisits : visits = earlier ++ visit :: later) (hupdates : Updates visit.exchanges) :
    ∃ source ∈ earlier, Granted org source := by
  obtain ⟨before, now, after, hearlier, htrace, hanswers⟩ := h.split hvisits
  rcases FederatedAuth.trace_reconcile_iff.mp htrace with ⟨_, hnone, _⟩ | ⟨_, outcome, hcourse, _⟩
  · rw [hnone] at hupdates
    exact absurd hupdates updates_nil
  · exact hearlier.hasApplied_iff.mp (hasApplied_of_updates hcourse hanswers hupdates)

/-! ### Disabled, enabled, updated -/

/-- The login without a record, as long as its author does not want it yet. -/
def pausedLogin : FederatedAuth :=
  { freshLogin with spec := { freshLogin.spec with enabled := false } }

/-- A cloud with a config that somebody else chose. -/
def foreignCloud : MemoryCloud :=
  MemoryCloud.empty.addFederation "org" freshSettings foreignConfig

/-- The first pass finds the login disabled, and is fine. -/
def pausedVisit : Visit where
  auth := pausedLogin
  exchanges := []
  reconciled := pausedLogin.after (publishAll creationTime pausedLogin.conditions .ok)

/-- Before the second pass the author enables the login, and the pass updates the config. -/
def enabledVisit : Visit where
  auth := { pausedVisit.reconciled.resource with spec := freshLogin.spec }
  exchanges := correction freshLogin.spec "org" freshSettings foreignConfig (.ok declaredConfig)
  reconciled :=
    { pausedVisit.reconciled.resource with spec := freshLogin.spec }.after
      (publishAll creationTime pausedVisit.reconciled.resource.conditions .ok)

theorem configured_enabledVisit : Configured enabledVisit.auth (some "org") "org" where
  enabled := rfl
  org_eq := rfl
  named := by decide

/-- Nobody touches the cloud in between, and no pass finds the config as declared. -/
theorem history_enabledVisit :
    ∃ auth cloud, History (some "org") [pausedVisit, enabledVisit] auth cloud := by
  have hpaused : History (some "org") [pausedVisit] pausedVisit.reconciled.resource foreignCloud :=
    .pass (.start rfl)
      (FederatedAuth.trace_reconcile_iff.mpr (.inr ⟨rfl, _, .disabled rfl, rfl⟩)) (.none _)
  have henabled : History (some "org") [pausedVisit] enabledVisit.auth foreignCloud :=
    hpaused.edit rfl
  have hattended : enabledVisit.auth.metadata.isSkipped = false := Metadata.isSkipped_setApplied
  have hrecorded : enabledVisit.auth.metadata.hasApplied = true := Metadata.hasApplied_setApplied
  have hsynced : Synced freshLogin.spec "org" enabledVisit.exchanges
      (replied (.ok declaredConfig)) :=
    .updated (viewOf freshLogin.spec "org" freshSettings foreignConfig) (.ok declaredConfig)
      (.read freshSettings foreignConfig) (by decide)
  have htrace : (enabledVisit.auth.reconcile creationTime (some "org") true).Trace
      enabledVisit.exchanges enabledVisit.reconciled :=
    FederatedAuth.trace_reconcile_iff.mpr
      (.inr ⟨hattended, _, .direct configured_enabledVisit hrecorded hsynced, rfl⟩)
  have hanswers : foreignCloud.Answers enabledVisit.exchanges _ :=
    .call (.getSettings "org") (.call (.getOrg "fs" "org")
      (.call (.updateOrg "fs" declaredConfig) (.none _)))
  exact ⟨_, _, henabled.pass htrace hanswers⟩

/-- The pass over the disabled login granted the record that the update relies on. -/
theorem granted_pausedVisit :
    (∃ auth cloud, History (some "org") [pausedVisit, enabledVisit] auth cloud) ∧
      Updates enabledVisit.exchanges ∧
      ∃ source ∈ [pausedVisit], Granted (some "org") source := by
  obtain ⟨auth, cloud, hhistory⟩ := history_enabledVisit
  exact ⟨history_enabledVisit, updates_correction,
    granted_of_updates hhistory (List.append_cons [] pausedVisit [enabledVisit]) updates_correction⟩

/-- So a config may be updated that no pass over an enabled login found as declared. -/
theorem not_forall_updates_foundEqual :
    ¬∀ (org : Option String) (visits earlier later : List Visit) (visit : Visit)
      (auth : FederatedAuth) (cloud : MemoryCloud), History org visits auth cloud →
      visits = earlier ++ visit :: later → Updates visit.exchanges →
        ∃ source ∈ earlier, FoundEqual source.auth org source.exchanges := by
  intro h
  obtain ⟨auth, cloud, hhistory⟩ := history_enabledVisit
  obtain ⟨source, hsource, id, hconfigured, _⟩ :=
    h _ _ [pausedVisit] [] enabledVisit auth cloud hhistory rfl updates_correction
  obtain rfl := List.mem_singleton.mp hsource
  exact Bool.false_ne_true hconfigured.enabled

end CloudSteward.Login
