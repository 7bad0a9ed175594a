import CloudSteward.Proofs.Login.History

/-!
# A pass brings the config in line

Without protection a pass reads the config once.  If that is as declared, the pass is over;
otherwise it writes what is declared, under the organization that it asked for, whatever
organization the stored config names.  Either way a pass that is fine leaves a config that
agrees with the declared one (`InLine`): what was written is what it was compared with, and
a config agrees with itself (`agrees_self`).

So the next pass, as long as no failure keeps it from reading, finds nothing to do
(`run_ensure_of_matches`).  A pass that is not fine has written nothing
(`Synced.sameLogins_of_not_isOk`).
-/

namespace CloudSteward

namespace ConnectedOrg

theorem sameMembers_self (list : List String) : sameMembers list list = true := by
  simp [sameMembers]

theorem agrees_self (config : ConnectedOrg) : config.agrees config = true := by
  simp [agrees, sameMembers_self]

end ConnectedOrg

namespace Login

open MemoryCloud

variable {now : Moment} {auth : FederatedAuth} {spec : FederatedAuthSpec} {id : String}
  {conditions : Conditions} {cloud after : MemoryCloud} {exchanges : List Exchange}
  {result : PassResult} {outcome : PassResult × Conditions}

/-! ## What a pass leaves -/

/-- The config of an organization is as declared, under the identity provider that it had
before, and nothing else changed. -/
structure InLine (spec : FederatedAuthSpec) (id : String) (cloud after : MemoryCloud)
    (settings : FederationSettings) (old config : ConnectedOrg) : Prop where
  settings_eq : cloud.settings.get? id = some settings
  before : cloud.orgOf? settings.id id = some old
  stored : after.orgOf? settings.id id = some config
  agrees : (spec.toConnectedOrg id old.identityProvider).agrees config = true
  provider_eq : config.identityProvider = old.identityProvider
  settings_kept : after.settings = cloud.settings
  others : ∀ key, key ≠ (settings.id, id) → after.orgs.get? key = cloud.orgs.get? key

theorem InLine.matches_eq {settings : FederationSettings} {old config : ConnectedOrg}
    (h : InLine spec id cloud after settings old config) : spec.matches id config = true := by
  unfold FederatedAuthSpec.matches
  rw [h.provider_eq]
  exact h.agrees

theorem inLine_of_sameLogins {settings : FederationSettings} {config : ConnectedOrg}
    (hsettings : cloud.settings.get? id = some settings)
    (hconfig : cloud.orgOf? settings.id id = some config)
    (hagrees : spec.matches id config = true) (hsame : cloud.SameLogins after) :
    InLine spec id cloud after settings config config where
  settings_eq := hsettings
  before := hconfig
  stored := (hsame.orgOf?_eq _ _).trans hconfig
  agrees := hagrees
  provider_eq := rfl
  settings_kept := hsame.settings_eq
  others _ _ := congrArg (Table.get? · _) hsame.orgs_eq

/-- An update puts the declared config where the pass found the old one. -/
theorem inLine_of_put {settings : FederationSettings} {old : ConnectedOrg}
    (hsettings : cloud.settings.get? id = some settings)
    (hold : cloud.orgOf? settings.id id = some old) (hkept : after.settings = cloud.settings)
    (horgs : after.orgs =
      cloud.orgs.put (settings.id, id) (spec.toConnectedOrg id old.identityProvider)) :
    InLine spec id cloud after settings old (spec.toConnectedOrg id old.identityProvider) where
  settings_eq := hsettings
  before := hold
  stored := by
    unfold orgOf?
    rw [horgs, Table.get?_put_self]
  agrees := ConnectedOrg.agrees_self _
  provider_eq := rfl
  settings_kept := hkept
  others key hkey := by rw [horgs, Table.get?_put_of_ne _ _ hkey]

/-- A look that failed has changed nothing. -/
theorem Fetched.sameLogins_of_error {error : CloudError}
    (h : Fetched spec id exchanges (.error error)) (hanswers : cloud.Answers exchanges after) :
    cloud.SameLogins after := by
  cases h with
  | unsettled error =>
      obtain ⟨middle, hfailed, hrest⟩ := hanswers.loginsAfter_cons
      exact hfailed.sameLogins_of_error.trans hrest.sameLogins
  | unread settings error =>
      obtain ⟨settled, hsettled, hread⟩ := hanswers.loginsAfter_cons
      obtain ⟨middle, hfailed, hrest⟩ := hread.loginsAfter_cons
      exact (hsettled.of_settled.2.trans hfailed.sameLogins_of_error).trans hrest.sameLogins

theorem Synced.exists_inLine_of_isOk (h : Synced spec id exchanges result)
    (hanswers : cloud.Answers exchanges after) (hok : result.isOk = true) :
    ∃ settings old config, InLine spec id cloud after settings old config := by
  cases h with
  | unread => cases hok
  | equal view hfetched hagrees =>
      obtain ⟨settings, config, rfl, rfl⟩ := fetched_ok_iff.mp hfetched
      rw [← List.append_nil (look id settings config)] at hanswers
      obtain ⟨hsettings, hconfig, middle, hsame, hrest⟩ := answers_look hanswers
      exact ⟨settings, config, config,
        inLine_of_sameLogins hsettings hconfig hagrees (hsame.trans hrest.sameLogins)⟩
  | updated view reply hfetched =>
      obtain ⟨settings, old, rfl, rfl⟩ := fetched_ok_iff.mp hfetched
      obtain ⟨hsettings, hold, middle, hsame, hupdate⟩ := answers_look hanswers
      cases reply with
      | error error => cases hok
      | ok stored =>
          obtain ⟨written, hwritten, hrest⟩ := hupdate.loginsAfter_cons
          obtain ⟨hkept, horgs⟩ := hwritten.of_updated
          have hlast := hrest.sameLogins
          refine ⟨settings, old, _, inLine_of_put hsettings hold ?_ ?_⟩
          · rw [hlast.settings_eq, hkept, hsame.settings_eq]
          · rw [hlast.orgs_eq, horgs, hsame.orgs_eq]
            rfl

/-- A call that fails ends the pass, and changes nothing. -/
theorem Synced.sameLogins_of_not_isOk (h : Synced spec id exchanges result)
    (hanswers : cloud.Answers exchanges after) (hfailed : result.isOk = false) :
    (∃ error, result = failure error) ∧ cloud.SameLogins after := by
  cases h with
  | unread error hfetched => exact ⟨⟨error, rfl⟩, hfetched.sameLogins_of_error hanswers⟩
  | equal => cases hfailed
  | updated view reply hfetched =>
      obtain ⟨settings, old, rfl, rfl⟩ := fetched_ok_iff.mp hfetched
      obtain ⟨_, _, middle, hsame, hupdate⟩ := answers_look hanswers
      cases reply with
      | ok => cases hfailed
      | error error =>
          obtain ⟨refused, hrefused, hrest⟩ := hupdate.loginsAfter_cons
          exact ⟨⟨error, rfl⟩,
            hsame.trans (hrefused.sameLogins_of_error.trans hrest.sameLogins)⟩

/-! ## The pass behind it -/

section Rest

variable {settings : FederationSettings} {config : ConnectedOrg}
  (hsettled : cloud.orderedFailure? .getSettings = none)
  (hread : cloud.orderedFailure? .getOrg = none)
  (hsettings : cloud.settings.get? id = some settings)
  (hconfig : cloud.orgOf? settings.id id = some config)

include hsettled hread hsettings hconfig

theorem run_fetch (spec : FederatedAuthSpec) :
    cloud.run (fetch spec id) = (.ok (viewOf spec id settings config),
      { cloud with log := cloud.log ++ [.getSettings, .getOrg] }) := by
  have hasked : answer (.getOrg settings.id id)
      { cloud with log := cloud.log ++ [.getSettings] } =
        (.ok config, { cloud with log := cloud.log ++ [.getSettings] ++ [.getOrg] }) :=
    answer_getOrg hread hconfig
  unfold fetch
  rw [Program.bind_eq_bind, run_make_bind (answer_getSettings hsettled hsettings)]
  refine (run_make_bind hasked _).trans ?_
  rw [List.append_assoc]
  rfl

/-- A pass that finds the config as declared only reads it. -/
theorem run_ensure_of_matches (hconfigured : Configured auth (some id) id)
    (hmatches : auth.spec.matches id config = true) :
    cloud.run (ensure now auth (some id) false conditions) = (publishAll now conditions .ok,
      { cloud with log := cloud.log ++ [.getSettings, .getOrg] }) := by
  have hagrees : (viewOf auth.spec id settings config).desired.agrees
      (viewOf auth.spec id settings config).remote = true := hmatches
  have hsync : cloud.run (sync auth.spec id) =
      (.ok, { cloud with log := cloud.log ++ [.getSettings, .getOrg] }) := by
    unfold sync
    rw [Program.bind_eq_bind, run_bind, run_fetch hsettled hread hsettings hconfig]
    simp only [hagrees, if_true]
    rfl
  rw [ensure_of_configured hconfigured]
  show cloud.run ((sync auth.spec id).bind fun result =>
    .done (publishAll now conditions result)) = _
  rw [run_bind, hsync]
  rfl

end Rest

/-! ## Passes without protection -/

/-- A pass without protection that is fine leaves the config in line with the declared one,
and as long as nobody changes it and no reading fails, every pass behind it is fine and makes
the two calls that read the config.  A pass that is not fine has changed no config; it is to
be tried again, and says what the cloud said. -/
theorem inLine_or_untouched (henabled : auth.spec.enabled = true) (hnamed : id ≠ "")
    (h : cloud.Execution (ensure now auth (some id) false conditions) outcome after) :
    (outcome.1.isOk = true → ∃ settings old config,
      InLine auth.spec id cloud after settings old config ∧
        ∀ (later : Moment) (again : FederatedAuth) (others : Conditions) (world : MemoryCloud),
          again.spec = auth.spec → after.SameLogins world →
          world.orderedFailure? .getSettings = none → world.orderedFailure? .getOrg = none →
            world.run (ensure later again (some id) false others) =
              (publishAll later others .ok,
                { world with log := world.log ++ [.getSettings, .getOrg] })) ∧
      (outcome.1.isOk = false → cloud.SameLogins after ∧
        ∃ error : CloudError, outcome.1 = .terminate .federatedAuthNotReady error.text) := by
  obtain ⟨exchanges, htrace, hanswers⟩ := h
  have hconfigured : Configured auth (some id) id := ⟨henabled, rfl, hnamed⟩
  rw [ensure_of_configured hconfigured] at htrace
  obtain ⟨result, hsync, rfl⟩ := Program.trace_map_iff.mp htrace
  have hsynced := trace_sync_iff.mp hsync
  constructor
  · intro hok
    obtain ⟨settings, old, config, hline⟩ := hsynced.exists_inLine_of_isOk hanswers hok
    refine ⟨settings, old, config, hline, ?_⟩
    intro later again others world hspec hsame hsettled hread
    have hsettings : world.settings.get? id = some settings := by
      rw [hsame.settings_eq, hline.settings_kept, hline.settings_eq]
    have hconfig : world.orgOf? settings.id id = some config := by
      rw [hsame.orgOf?_eq, hline.stored]
    have hagain : Configured again (some id) id := ⟨hspec ▸ henabled, rfl, hnamed⟩
    exact run_ensure_of_matches hsettled hread hsettings hconfig hagain (hspec ▸ hline.matches_eq)
  · intro hfailed
    obtain ⟨⟨error, herror⟩, hsame⟩ := hsynced.sameLogins_of_not_isOk hanswers hfailed
    exact ⟨hsame, error, herror⟩

/-- A config that names another organization than the one that it is stored for, and a
failure that waits for some other call. -/
def misnamedCloud : MemoryCloud :=
  (MemoryCloud.empty.addFederation "org" freshSettings
    { foreignConfig with orgId := "other" }).orderFailure .createRole "later"

/-- The pass writes the config under the organization that it asked for, and the next pass
has nothing left to do. -/
theorem inLine_misnamedCloud : ∃ outcome after settings old config,
    misnamedCloud.Execution (ensure creationTime freshLogin (some "org") false .empty) outcome
        after ∧
      outcome.1.isOk = true ∧
      InLine freshLogin.spec "org" misnamedCloud after settings old config ∧
      (after.run (ensure creationTime freshLogin (some "org") false outcome.2)).1.1 = .ok := by
  have hpass :=
    execution_run (ensure creationTime freshLogin (some "org") false .empty) misnamedCloud
  have hok : (misnamedCloud.run
      (ensure creationTime freshLogin (some "org") false .empty)).1.1.isOk = true := by
    decide +kernel
  have hsettled : (misnamedCloud.run (ensure creationTime freshLogin (some "org") false
      .empty)).2.orderedFailure? .getSettings = none := by
    decide +kernel
  have hread : (misnamedCloud.run (ensure creationTime freshLogin (some "org") false
      .empty)).2.orderedFailure? .getOrg = none := by
    decide +kernel
  obtain ⟨settings, old, config, hline, hnext⟩ :=
    (inLine_or_untouched rfl (by decide) hpass).1 hok
  refine ⟨_, _, settings, old, config, hpass, hok, hline, ?_⟩
  rw [hnext creationTime freshLogin _ _ rfl ⟨rfl, rfl⟩ hsettled hread]
  rfl

end Login

end CloudSteward
