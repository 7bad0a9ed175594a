import CloudSteward.Cloud.Memory
import CloudSteward.Proofs.Login.Pass

/-!
# Deletion protection of a login

A protected pass over a login that was never recorded owns the config only if it is
as declared, and then there should be nothing to update.  But the pass looks twice.
`guarded_update_iff` gives all passes that update nevertheless: somebody changed the
config after the first look and before the second, and the update undoes that change.
If both looks show the same, there is no update.
-/

namespace CloudSteward.Login

variable {now : Moment} {auth : FederatedAuth} {spec : FederatedAuthSpec} {org : Option String}
  {id : String} {guarded : Bool} {conditions : Conditions} {exchanges : List Exchange}
  {found : Except CloudError View} {result : PassResult} {outcome : PassResult × Conditions}

/-- Whether an update of the config was asked for. -/
def Updates (exchanges : List Exchange) : Prop :=
  ∃ exchange ∈ exchanges, exchange.question.operation = .updateOrg

/-- A look at the config to which both calls were answered. -/
def look (id : String) (settings : FederationSettings) (config : ConnectedOrg) : List Exchange :=
  [⟨.getSettings id, .ok settings⟩, ⟨.getOrg settings.id id, .ok config⟩]

/-- A look at a config, followed by its update to what is declared. -/
def correction (spec : FederatedAuthSpec) (id : String) (settings : FederationSettings)
    (config : ConnectedOrg) (reply : Except CloudError ConnectedOrg) : List Exchange :=
  look id settings config ++
    [⟨.updateOrg settings.id (spec.toConnectedOrg id config.identityProvider), reply⟩]

@[simp] theorem updates_nil : ¬Updates [] := by
  simp [Updates]

theorem updates_append_iff {first second : List Exchange} :
    Updates (first ++ second) ↔ Updates first ∨ Updates second := by
  simp [Updates, or_and_right, exists_or]

theorem Fetched.not_updates (h : Fetched spec id exchanges found) : ¬Updates exchanges := by
  cases h <;> simp [Updates, Call.operation]

theorem fetched_ok_iff {view : View} : Fetched spec id exchanges (.ok view) ↔
    ∃ settings config, exchanges = look id settings config ∧
      view = viewOf spec id settings config := by
  constructor
  · intro h
    cases h with
    | read settings config => exact ⟨settings, config, rfl, rfl⟩
  · rintro ⟨settings, config, rfl, rfl⟩
    exact .read settings config

theorem updates_correction {settings : FederationSettings} {config : ConnectedOrg}
    {reply : Except CloudError ConnectedOrg} :
    Updates (correction spec id settings config reply) :=
  ⟨_, List.mem_append_right _ List.mem_cons_self, rfl⟩

theorem Synced.exists_correction (h : Synced spec id exchanges result)
    (hupdates : Updates exchanges) : ∃ settings config reply, spec.matches id config = false ∧
      exchanges = correction spec id settings config reply := by
  cases h with
  | unread error hfetched => exact absurd hupdates hfetched.not_updates
  | equal view hfetched _ => exact absurd hupdates hfetched.not_updates
  | updated view reply hfetched hdiffers =>
      obtain ⟨settings, config, rfl, rfl⟩ := fetched_ok_iff.mp hfetched
      exact ⟨settings, config, reply, hdiffers, rfl⟩

/-- A pass that updates found a config that is not as declared when it looked last, and
it was exempt, or it had found one that is as declared when it looked first. -/
theorem Course.exists_correction (h : Course now auth org guarded conditions exchanges outcome)
    (hupdates : Updates exchanges) :
    ∃ id, Configured auth org id ∧ ∃ settings config reply, auth.spec.matches id config = false ∧
      ((exempt guarded auth = true ∧ exchanges = correction auth.spec id settings config reply) ∨
        (exempt guarded auth = false ∧ ∃ before checked, auth.spec.matches id checked = true ∧
          exchanges = look id before checked ++
            correction auth.spec id settings config reply)) := by
  cases h with
  | disabled => exact absurd hupdates updates_nil
  | unconfigured => exact absurd hupdates updates_nil
  | undecided error _ _ hfetched => exact absurd hupdates hfetched.not_updates
  | refused view _ _ hfetched => exact absurd hupdates hfetched.not_updates
  | @adopted id first second view result hconfigured hexempt hfetched hagrees hsynced =>
      have hsecond : Updates second :=
        (updates_append_iff.mp hupdates).resolve_left hfetched.not_updates
      obtain ⟨before, checked, rfl, rfl⟩ := fetched_ok_iff.mp hfetched
      obtain ⟨settings, config, reply, hdiffers, rfl⟩ := hsynced.exists_correction hsecond
      exact ⟨id, hconfigured, settings, config, reply, hdiffers,
        .inr ⟨hexempt, before, checked, hagrees, rfl⟩⟩
  | @direct id _ result hconfigured hexempt hsynced =>
      obtain ⟨settings, config, reply, hdiffers, rfl⟩ := hsynced.exists_correction hupdates
      exact ⟨id, hconfigured, settings, config, reply, hdiffers, .inl ⟨hexempt, rfl⟩⟩

/-- A protected pass over a login that was never recorded updates the config exactly if
the config was as declared when the pass looked first, and is not when it looks last. -/
theorem guarded_update_iff (hunrecorded : auth.metadata.hasApplied = false) :
    ((∃ outcome, (ensure now auth org true conditions).Trace exchanges outcome) ∧
        Updates exchanges) ↔
      ∃ id, Configured auth org id ∧ ∃ before checked settings config reply,
        auth.spec.matches id checked = true ∧ auth.spec.matches id config = false ∧
          exchanges = look id before checked ++
            correction auth.spec id settings config reply := by
  -- Protected and without a record, the pass is not exempt from the first look.
  have hbound : exempt true auth = false := hunrecorded
  constructor
  · rintro ⟨⟨outcome, htrace⟩, hupdates⟩
    obtain ⟨id, hconfigured, settings, config, reply, hdiffers, hcases⟩ :=
      (trace_ensure_iff.mp htrace).exists_correction hupdates
    rcases hcases with ⟨hexempt, _⟩ | ⟨_, before, checked, hmatches, rfl⟩
    · exact absurd (hexempt.symm.trans hbound) (by decide)
    · exact ⟨id, hconfigured, before, checked, settings, config, reply, hmatches, hdiffers, rfl⟩
  · rintro ⟨id, hconfigured, before, checked, settings, config, reply, hmatches, hdiffers, rfl⟩
    have hsynced : Synced auth.spec id (correction auth.spec id settings config reply)
        (replied reply) := .updated (viewOf auth.spec id settings config) reply
      (.read settings config) hdiffers
    exact ⟨⟨_, trace_ensure_iff.mpr (.adopted (viewOf auth.spec id before checked) hconfigured
      hbound (.read before checked) hmatches hsynced)⟩,
      updates_append_iff.mpr (.inr updates_correction)⟩

/-! ### Updated without a record -/

/-- A login that was never recorded. -/
def freshLogin : FederatedAuth where
  metadata := .new "sso"
  spec := {
    enabled := true
    domainAllowList := ["example.com"]
    domainRestriction := true
    roleGrants := [] }
  conditions := .empty

def freshSettings : FederationSettings where
  id := "fs"
  identityProvider := none

/-- The config that the login declares. -/
def declaredConfig : ConnectedOrg :=
  freshLogin.spec.toConnectedOrg "org" none

/-- A config that somebody else may choose instead. -/
def foreignConfig : ConnectedOrg :=
  { declaredConfig with domainAllowList := ["example.net"] }

theorem configured_freshLogin : Configured freshLogin (some "org") "org" where
  enabled := rfl
  org_eq := rfl
  named := by decide

/-- Between the two looks somebody changes the config, and the pass undoes the change. -/
theorem freshLogin_undoes_change :
    freshLogin.metadata.hasApplied = false ∧
      (∃ outcome, (ensure MemoryCloud.creationTime freshLogin (some "org") true .empty).Trace
        (look "org" freshSettings declaredConfig ++
          correction freshLogin.spec "org" freshSettings foreignConfig (.ok declaredConfig))
        outcome) ∧
      Updates (look "org" freshSettings declaredConfig ++
        correction freshLogin.spec "org" freshSettings foreignConfig (.ok declaredConfig)) :=
  ⟨rfl, (guarded_update_iff rfl).mpr ⟨"org", configured_freshLogin, freshSettings, declaredConfig,
    freshSettings, foreignConfig, .ok declaredConfig, by decide, by decide, rfl⟩⟩

/-- So it is not true that a protected pass over a login without a record never updates. -/
theorem not_forall_unrecorded_not_updates :
    ¬∀ (now : Moment) (auth : FederatedAuth) (org : String) (conditions : Conditions)
      (exchanges : List Exchange) (outcome : PassResult × Conditions),
      auth.metadata.hasApplied = false →
      (ensure now auth (some org) true conditions).Trace exchanges outcome →
        ¬Updates exchanges := by
  intro h
  have hsynced : Synced freshLogin.spec "org"
      (correction freshLogin.spec "org" freshSettings foreignConfig (.ok declaredConfig))
      (replied (.ok declaredConfig)) :=
    .updated (viewOf freshLogin.spec "org" freshSettings foreignConfig) (.ok declaredConfig)
      (.read freshSettings foreignConfig) (by decide)
  have htrace : (ensure MemoryCloud.creationTime freshLogin (some "org") true .empty).Trace
      (look "org" freshSettings declaredConfig ++
        correction freshLogin.spec "org" freshSettings foreignConfig (.ok declaredConfig)) _ :=
    trace_ensure_iff.mpr (.adopted (viewOf freshLogin.spec "org" freshSettings declaredConfig)
      configured_freshLogin rfl (.read freshSettings declaredConfig) (by decide) hsynced)
  exact h _ freshLogin "org" _ _ _ rfl htrace (updates_append_iff.mpr (.inr updates_correction))

end CloudSteward.Login
