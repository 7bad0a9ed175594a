import CloudSteward.Proofs.Cloud.Execution

/-!
# Federation settings and configs of the cloud in memory

What one call can do to the settings and the configs of the organizations is said once,
by `LoginsAfter`, as it is said for roles: only an update that succeeds changes any of
them, and reading tells what is there.
-/

namespace CloudSteward.MemoryCloud

variable {cloud after : MemoryCloud}

/-- Two clouds with the same federation settings and configs. -/
structure SameLogins (first second : MemoryCloud) : Prop where
  settings_eq : second.settings = first.settings
  orgs_eq : second.orgs = first.orgs

theorem SameLogins.orgOf?_eq {first second : MemoryCloud} (h : first.SameLogins second)
    (settings org : String) : second.orgOf? settings org = first.orgOf? settings org := by
  unfold orgOf?
  rw [h.orgs_eq]

theorem SameLogins.trans {first second third : MemoryCloud} (hleft : first.SameLogins second)
    (hright : second.SameLogins third) : first.SameLogins third where
  settings_eq := hright.settings_eq.trans hleft.settings_eq
  orgs_eq := hright.orgs_eq.trans hleft.orgs_eq

/-- Whether calls of this kind neither read nor change settings and configs. -/
def leavesLogins : Operation → Bool
  | .getSettings | .getOrg | .updateOrg => false
  | _ => true

/-- What the settings and configs are after a call with its reply. -/
inductive LoginsAfter (cloud : MemoryCloud) : Exchange → MemoryCloud → Prop where
  | failed {after : MemoryCloud} (call : Call) (error : CloudError) :
      cloud.SameLogins after → LoginsAfter cloud ⟨call, .error error⟩ after
  | settled {after : MemoryCloud} {org : String} {settings : FederationSettings} :
      cloud.settings.get? org = some settings → cloud.SameLogins after →
        LoginsAfter cloud ⟨.getSettings org, .ok settings⟩ after
  | read {after : MemoryCloud} {settings org : String} {config : ConnectedOrg} :
      cloud.orgOf? settings org = some config → cloud.SameLogins after →
        LoginsAfter cloud ⟨.getOrg settings org, .ok config⟩ after
  | updated {after : MemoryCloud} {settings : String} {old config : ConnectedOrg} :
      cloud.orgOf? settings config.orgId = some old → after.settings = cloud.settings →
      after.orgs = cloud.orgs.put (settings, config.orgId) config →
        LoginsAfter cloud ⟨.updateOrg settings config, .ok config⟩ after
  | foreign {exchange : Exchange} {after : MemoryCloud} :
      leavesLogins exchange.question.operation = true → cloud.SameLogins after →
        LoginsAfter cloud exchange after

theorem LoginsAfter.of_sameLogins {first second : MemoryCloud} (hsame : first.SameLogins second)
    {exchange : Exchange} (h : second.LoginsAfter exchange after) :
    first.LoginsAfter exchange after := by
  cases h with
  | failed call error h => exact .failed call error (hsame.trans h)
  | settled hsettings h => exact .settled (hsame.settings_eq ▸ hsettings) (hsame.trans h)
  | read hconfig h => exact .read (hsame.orgOf?_eq _ _ ▸ hconfig) (hsame.trans h)
  | updated hold hsettings horgs =>
      exact .updated (hsame.orgOf?_eq _ _ ▸ hold) (hsettings.trans hsame.settings_eq)
        (hsame.orgs_eq ▸ horgs)
  | foreign hleaves h => exact .foreign hleaves (hsame.trans h)

/-- Every call of every kind does one of these things. -/
theorem loginsAfter_answer (call : Call) (cloud : MemoryCloud) :
    cloud.LoginsAfter ⟨call, (answer call cloud).1⟩ (answer call cloud).2 := by
  unfold answer
  cases hfailure : cloud.orderedFailure? call.operation with
  | some detail => exact .failed call _ ⟨rfl, rfl⟩
  | none =>
      cases call with
      | getSettings org =>
          simp only [perform]
          split
          case h_1 settings hsettings => exact .settled hsettings ⟨rfl, rfl⟩
          case h_2 => exact .failed _ _ ⟨rfl, rfl⟩
      | getOrg settings org =>
          simp only [perform]
          split
          case h_1 config hconfig => exact .read hconfig ⟨rfl, rfl⟩
          case h_2 => exact .failed _ _ ⟨rfl, rfl⟩
      | updateOrg settings config =>
          simp only [perform]
          split
          case h_1 old hold => exact .updated hold rfl rfl
          case h_2 => exact .failed _ _ ⟨rfl, rfl⟩
      | listRoles | createRole | listEndpoints => exact .foreign rfl ⟨rfl, rfl⟩
      | authorizeRole | deauthorizeRole | createEndpoint | deleteEndpoint =>
          simp only [perform]
          split <;> exact .foreign rfl ⟨rfl, rfl⟩

/-! ### Read from the reply -/

theorem LoginsAfter.of_settled {org : String} {settings : FederationSettings}
    (h : cloud.LoginsAfter ⟨.getSettings org, .ok settings⟩ after) :
    cloud.settings.get? org = some settings ∧ cloud.SameLogins after := by
  cases h with
  | settled hsettings hsame => exact ⟨hsettings, hsame⟩
  | foreign hleaves _ => cases hleaves

theorem LoginsAfter.of_read {settings org : String} {config : ConnectedOrg}
    (h : cloud.LoginsAfter ⟨.getOrg settings org, .ok config⟩ after) :
    cloud.orgOf? settings org = some config ∧ cloud.SameLogins after := by
  cases h with
  | read hconfig hsame => exact ⟨hconfig, hsame⟩
  | foreign hleaves _ => cases hleaves

theorem LoginsAfter.of_updated {settings : String} {config reply : ConnectedOrg}
    (h : cloud.LoginsAfter ⟨.updateOrg settings config, .ok reply⟩ after) :
    after.settings = cloud.settings ∧
      after.orgs = cloud.orgs.put (settings, config.orgId) config := by
  cases h with
  | updated _ hsettings horgs => exact ⟨hsettings, horgs⟩
  | foreign hleaves _ => cases hleaves

theorem LoginsAfter.sameLogins_of_error {call : Call} {error : CloudError}
    (h : cloud.LoginsAfter ⟨call, .error error⟩ after) : cloud.SameLogins after := by
  cases h with
  | failed _ _ hsame => exact hsame
  | foreign _ hsame => exact hsame

/-! ### Calls that do not fail -/

theorem answer_getSettings {org : String} {settings : FederationSettings}
    (hnone : cloud.orderedFailure? .getSettings = none)
    (hsettings : cloud.settings.get? org = some settings) :
    answer (.getSettings org) cloud =
      (.ok settings, { cloud with log := cloud.log ++ [.getSettings] }) := by
  rw [answer_of_unordered (.getSettings org) hnone]
  unfold perform
  simp only [hsettings]
  rfl

theorem answer_getOrg {settings org : String} {config : ConnectedOrg}
    (hnone : cloud.orderedFailure? .getOrg = none)
    (hconfig : cloud.orgOf? settings org = some config) :
    answer (.getOrg settings org) cloud =
      (.ok config, { cloud with log := cloud.log ++ [.getOrg] }) := by
  have hlogged : ({ cloud with log := cloud.log ++ [.getOrg] } : MemoryCloud).orgOf? settings org =
      some config := hconfig
  rw [answer_of_unordered (.getOrg settings org) hnone]
  unfold perform
  simp only [Call.operation, hlogged]

/-! ### Several calls -/

theorem Answers.sameLogins (h : cloud.Answers [] after) : cloud.SameLogins after := by
  obtain ⟨failures, rfl⟩ := h.of_nil
  exact ⟨rfl, rfl⟩

/-- The first of several calls does one of these things, and then come the others. -/
theorem Answers.loginsAfter_cons {exchange : Exchange} {rest : List Exchange}
    (h : cloud.Answers (exchange :: rest) after) :
    ∃ middle, cloud.LoginsAfter exchange middle ∧ middle.Answers rest after := by
  obtain ⟨failures, hreply, hrest⟩ := h.uncons
  have hsame : cloud.SameLogins { cloud with failures } := ⟨rfl, rfl⟩
  have heffect :=
    (loginsAfter_answer exchange.question { cloud with failures }).of_sameLogins hsame
  rw [← hreply] at heffect
  exact ⟨_, heffect, hrest⟩

end CloudSteward.MemoryCloud
