import CloudSteward.Pass.Reconcile
import CloudSteward.Proofs.Trace

/-!
# What a pass over a federated login can do

A pass looks at the config of the organization to see whether it may change it, and
then looks at it once more to see whether it has to.  Both times it asks for the
settings first and then for the config (`Fetched`), and nothing ties the two looks
together: the cloud may answer them differently.

`Synced` lists the ways in which the second half can go, and `Course` those of the whole
pass, for any cloud.  Both are equivalences, so they also tell which passes there are.
-/

namespace CloudSteward

/-- Whether a config is what a specification declares for an organization. -/
def FederatedAuthSpec.matches (spec : FederatedAuthSpec) (org : String) (config : ConnectedOrg) :
    Bool :=
  (spec.toConnectedOrg org config.identityProvider).agrees config

namespace Login

variable {now : Moment} {auth : FederatedAuth} {spec : FederatedAuthSpec} {org : Option String}
  {id : String} {guarded : Bool} {conditions : Conditions} {exchanges : List Exchange}
  {found : Except CloudError View} {result : PassResult} {outcome : PassResult × Conditions}

/-! ## Looking at the config -/

/-- What is known of an organization with these settings and this config. -/
def viewOf (spec : FederatedAuthSpec) (id : String) (settings : FederationSettings)
    (config : ConnectedOrg) : View where
  settings := settings.id
  desired := spec.toConnectedOrg id config.identityProvider
  remote := config

/-- The ways in which a look at the config can go. -/
inductive Fetched (spec : FederatedAuthSpec) (id : String) :
    List Exchange → Except CloudError View → Prop where
  | unsettled (error : CloudError) :
      Fetched spec id [⟨.getSettings id, .error error⟩] (.error error)
  | unread (settings : FederationSettings) (error : CloudError) :
      Fetched spec id [⟨.getSettings id, .ok settings⟩, ⟨.getOrg settings.id id, .error error⟩]
        (.error error)
  | read (settings : FederationSettings) (config : ConnectedOrg) :
      Fetched spec id [⟨.getSettings id, .ok settings⟩, ⟨.getOrg settings.id id, .ok config⟩]
        (.ok (viewOf spec id settings config))

theorem trace_fetch_iff :
    (fetch spec id).Trace exchanges found ↔ Fetched spec id exchanges found := by
  constructor
  · intro h
    unfold fetch Call.make at h
    obtain ⟨reply, rest, rfl, hrest⟩ := Program.trace_perform_bind_iff.mp h
    cases reply with
    | error error =>
        obtain ⟨rfl, rfl⟩ := Program.trace_done_iff.mp hrest
        exact .unsettled error
    | ok settings =>
        obtain ⟨reply, last, rfl, hlast⟩ := Program.trace_perform_bind_iff.mp hrest
        cases reply with
        | error error =>
            obtain ⟨rfl, rfl⟩ := Program.trace_done_iff.mp hlast
            exact .unread settings error
        | ok config =>
            obtain ⟨rfl, rfl⟩ := Program.trace_done_iff.mp hlast
            exact .read settings config
  · intro h
    cases h with
    | unsettled error => exact .ask _ (.done _)
    | unread settings error => exact .ask _ (.ask _ (.done _))
    | read settings config => exact .ask _ (.ask _ (.done _))

/-! ## Bringing the config in line -/

/-- The result of a pass that asked for an update. -/
def replied (reply : Except CloudError ConnectedOrg) : PassResult :=
  match reply with
  | .error error => failure error
  | .ok _ => .ok

/-- The ways in which a config can be brought in line. -/
inductive Synced (spec : FederatedAuthSpec) (id : String) :
    List Exchange → PassResult → Prop where
  | unread {exchanges : List Exchange} (error : CloudError) :
      Fetched spec id exchanges (.error error) → Synced spec id exchanges (failure error)
  | equal {exchanges : List Exchange} (view : View) : Fetched spec id exchanges (.ok view) →
      view.desired.agrees view.remote = true → Synced spec id exchanges .ok
  | updated {exchanges : List Exchange} (view : View)
      (reply : Call.Reply (.updateOrg view.settings view.desired)) :
      Fetched spec id exchanges (.ok view) → view.desired.agrees view.remote = false →
        Synced spec id (exchanges ++ [⟨.updateOrg view.settings view.desired, reply⟩])
          (replied reply)

theorem trace_sync_iff :
    (sync spec id).Trace exchanges result ↔ Synced spec id exchanges result := by
  constructor
  · intro h
    unfold sync Call.make at h
    obtain ⟨first, second, found, rfl, hfetch, h⟩ := Program.trace_bind_iff.mp h
    have hfetched := trace_fetch_iff.mp hfetch
    cases found with
    | error error =>
        obtain ⟨rfl, rfl⟩ := Program.trace_done_iff.mp h
        rw [List.append_nil]
        exact .unread error hfetched
    | ok view =>
        simp only at h
        by_cases hagrees : view.desired.agrees view.remote = true
        · rw [if_pos hagrees] at h
          obtain ⟨rfl, rfl⟩ := Program.trace_done_iff.mp h
          rw [List.append_nil]
          exact .equal view hfetched hagrees
        · rw [if_neg hagrees] at h
          obtain ⟨reply, last, rfl, hlast⟩ := Program.trace_perform_bind_iff.mp h
          have hdiffers : view.desired.agrees view.remote = false := Bool.not_eq_true _ ▸ hagrees
          cases reply with
          | error error =>
              obtain ⟨rfl, rfl⟩ := Program.trace_done_iff.mp hlast
              exact .updated view (.error error) hfetched hdiffers
          | ok config =>
              obtain ⟨rfl, rfl⟩ := Program.trace_done_iff.mp hlast
              exact .updated view (.ok config) hfetched hdiffers
  · intro h
    unfold sync Call.make
    cases h with
    | unread error hfetched =>
        rw [← List.append_nil exchanges]
        exact (trace_fetch_iff.mpr hfetched).bind (.done _)
    | equal view hfetched hagrees =>
        rw [← List.append_nil exchanges]
        refine (trace_fetch_iff.mpr hfetched).bind ?_
        simp only [hagrees, if_true]
        exact .done _
    | updated view reply hfetched hagrees =>
        refine (trace_fetch_iff.mpr hfetched).bind ?_
        simp only [hagrees, Bool.false_eq_true, if_false]
        cases reply <;> exact .ask _ (.done _)

/-! ## The course of a pass -/

/-- Whether a pass may go on without a look at the config. -/
def exempt (guarded : Bool) (auth : FederatedAuth) : Bool :=
  !guarded || auth.metadata.hasApplied

/-- What a look at the config says about ownership. -/
def verdict : Except CloudError View → Except OwnershipError Bool
  | .error error => .error (.remote error)
  | .ok view => .ok (view.desired.agrees view.remote)

theorem trace_diverged_iff {differs : Except CloudError Bool} :
    (diverged spec id).Trace exchanges differs ↔ ∃ found, Fetched spec id exchanges found ∧
      differs = found.map fun view => !view.desired.agrees view.remote := by
  have hmap : diverged spec id = (fetch spec id).bind fun found =>
      .done (found.map fun view => !view.desired.agrees view.remote) := by
    refine congrArg (Program.bind (fetch spec id)) (funext fun found => ?_)
    cases found <;> rfl
  rw [hmap, Program.trace_map_iff]
  simp only [trace_fetch_iff]

theorem verdict_eq (found : Except CloudError View) :
    ((found.map fun view => !view.desired.agrees view.remote).map Bool.not).mapError .remote =
      verdict found := by
  cases found with
  | error error => rfl
  | ok view => exact congrArg Except.ok (Bool.not_not _)

theorem trace_owns_iff {owned : Except OwnershipError Bool} :
    (Ownership.owns guarded auth.metadata.hasApplied (diverged spec id)).Trace exchanges owned ↔
      (exempt guarded auth = true ∧ exchanges = [] ∧ owned = .ok true) ∨
        (exempt guarded auth = false ∧
          ∃ found, Fetched spec id exchanges found ∧ owned = verdict found) := by
  have howns : Ownership.owns guarded auth.metadata.hasApplied (diverged spec id) =
      if exempt guarded auth = true then .done (.ok true)
      else (diverged spec id).bind fun differs =>
        .done ((differs.map Bool.not).mapError OwnershipError.remote) := by
    refine congrArg (ite _ _) (congrArg (Program.bind _) (funext fun differs => ?_))
    cases differs <;> rfl
  rw [howns]
  cases exempt guarded auth with
  | true => simp
  | false =>
      simp only [Bool.false_eq_true, if_false, false_and, false_or, true_and,
        Program.trace_map_iff, trace_diverged_iff]
      constructor
      · rintro ⟨differs, ⟨found, hfetched, rfl⟩, rfl⟩
        exact ⟨found, hfetched, verdict_eq found⟩
      · rintro ⟨found, hfetched, rfl⟩
        exact ⟨_, ⟨found, hfetched, rfl⟩, (verdict_eq found).symm⟩

/-- The login is enabled, and this is its organization. -/
structure Configured (auth : FederatedAuth) (org : Option String) (id : String) : Prop where
  enabled : auth.spec.enabled = true
  org_eq : org = some id
  named : id ≠ ""

/-- The ways in which a pass can go. -/
inductive Course (now : Moment) (auth : FederatedAuth) (org : Option String) (guarded : Bool)
    (conditions : Conditions) : List Exchange → PassResult × Conditions → Prop where
  | disabled : auth.spec.enabled = false →
      Course now auth org guarded conditions [] (publishAll now conditions .ok)
  | unconfigured : auth.spec.enabled = true → (∀ id, ¬Configured auth org id) →
      Course now auth org guarded conditions [] (publish now conditions unconfigured)
  | undecided {id : String} {exchanges : List Exchange} (error : CloudError) :
      Configured auth org id → exempt guarded auth = false →
      Fetched auth.spec id exchanges (.error error) →
        Course now auth org guarded conditions exchanges
          (publish now conditions (undecided (.remote error)))
  | refused {id : String} {exchanges : List Exchange} (view : View) :
      Configured auth org id → exempt guarded auth = false →
      Fetched auth.spec id exchanges (.ok view) → view.desired.agrees view.remote = false →
        Course now auth org guarded conditions exchanges (publish now conditions refused)
  | adopted {id : String} {first second : List Exchange} (view : View) {result : PassResult} :
      Configured auth org id → exempt guarded auth = false →
      Fetched auth.spec id first (.ok view) → view.desired.agrees view.remote = true →
      Synced auth.spec id second result →
        Course now auth org guarded conditions (first ++ second)
          (publishAll now conditions result)
  | direct {id : String} {exchanges : List Exchange} {result : PassResult} :
      Configured auth org id → exempt guarded auth = true →
      Synced auth.spec id exchanges result →
        Course now auth org guarded conditions exchanges (publishAll now conditions result)

/-- How a pass goes on once it knows whether it owns the config. -/
def proceed (now : Moment) (spec : FederatedAuthSpec) (id : String) (conditions : Conditions) :
    Except OwnershipError Bool → CloudProgram (PassResult × Conditions)
  | .error error => .done (publish now conditions (undecided error))
  | .ok false => .done (publish now conditions refused)
  | .ok true => (sync spec id).bind fun result => .done (publishAll now conditions result)

theorem filter_eq_some_iff (henabled : auth.spec.enabled = true) :
    (org.filter fun id => id ≠ "") = some id ↔ Configured auth org id := by
  rw [Option.filter_eq_some_iff, decide_eq_true_iff]
  exact ⟨fun ⟨horg, hnamed⟩ => ⟨henabled, horg, hnamed⟩, fun h => ⟨h.org_eq, h.named⟩⟩

theorem ensure_of_disabled (hdisabled : auth.spec.enabled = false) :
    ensure now auth org guarded conditions = .done (publishAll now conditions .ok) := by
  unfold ensure
  rw [hdisabled]
  rfl

theorem ensure_of_unconfigured (henabled : auth.spec.enabled = true)
    (hnone : ∀ id, ¬Configured auth org id) :
    ensure now auth org guarded conditions = .done (publish now conditions unconfigured) := by
  have hfilter : (org.filter fun id => id ≠ "") = none := by
    rw [Option.eq_none_iff_forall_ne_some]
    exact fun id hid => hnone id ((filter_eq_some_iff henabled).mp hid)
  unfold ensure
  rw [henabled, hfilter]
  rfl

theorem ensure_of_configured (h : Configured auth org id) :
    ensure now auth org guarded conditions =
      (Ownership.owns guarded auth.metadata.hasApplied (diverged auth.spec id)).bind
        (proceed now auth.spec id conditions) := by
  unfold ensure
  rw [h.enabled, (filter_eq_some_iff h.enabled).mpr h]
  refine congrArg (Program.bind _) (funext fun owned => ?_)
  rcases owned with error | _ | _ <;> rfl

/-- A pass over a login that is enabled for an organization looks at its config first,
unless it is exempt. -/
theorem course_of_configured (hconfigured : Configured auth org id)
    (h : (ensure now auth org guarded conditions).Trace exchanges outcome) :
    Course now auth org guarded conditions exchanges outcome := by
  rw [ensure_of_configured hconfigured, Program.trace_bind_iff] at h
  obtain ⟨first, second, owned, rfl, howns, hproceed⟩ := h
  rcases trace_owns_iff.mp howns with ⟨hexempt, rfl, rfl⟩ | ⟨hexempt, found, hfetched, rfl⟩
  · obtain ⟨result, hsync, rfl⟩ := Program.trace_map_iff.mp hproceed
    exact .direct hconfigured hexempt (trace_sync_iff.mp hsync)
  · cases found with
    | error error =>
        obtain ⟨rfl, rfl⟩ := Program.trace_done_iff.mp hproceed
        rw [List.append_nil]
        exact .undecided error hconfigured hexempt hfetched
    | ok view =>
        simp only [verdict] at hproceed
        cases hagrees : view.desired.agrees view.remote with
        | false =>
            rw [hagrees] at hproceed
            obtain ⟨rfl, rfl⟩ := Program.trace_done_iff.mp hproceed
            rw [List.append_nil]
            exact .refused view hconfigured hexempt hfetched hagrees
        | true =>
            rw [hagrees] at hproceed
            obtain ⟨result, hsync, rfl⟩ := Program.trace_map_iff.mp hproceed
            exact .adopted view hconfigured hexempt hfetched hagrees (trace_sync_iff.mp hsync)

/-- The passes are those that go one of these ways. -/
theorem trace_ensure_iff : (ensure now auth org guarded conditions).Trace exchanges outcome ↔
    Course now auth org guarded conditions exchanges outcome := by
  constructor
  · intro h
    cases henabled : auth.spec.enabled with
    | false =>
        rw [ensure_of_disabled henabled] at h
        obtain ⟨rfl, rfl⟩ := Program.trace_done_iff.mp h
        exact .disabled henabled
    | true =>
        by_cases hnone : ∀ id, ¬Configured auth org id
        · rw [ensure_of_unconfigured henabled hnone] at h
          obtain ⟨rfl, rfl⟩ := Program.trace_done_iff.mp h
          exact .unconfigured henabled hnone
        · obtain ⟨id, hconfigured⟩ := Classical.not_forall_not.mp hnone
          exact course_of_configured hconfigured h
  · intro h
    cases h with
    | disabled hdisabled => exact ensure_of_disabled hdisabled ▸ .done _
    | unconfigured henabled hnone => exact ensure_of_unconfigured henabled hnone ▸ .done _
    | undecided error hconfigured hexempt hfetched =>
        rw [ensure_of_configured hconfigured, ← List.append_nil exchanges]
        exact (trace_owns_iff.mpr (.inr ⟨hexempt, _, hfetched, rfl⟩)).bind (.done _)
    | refused view hconfigured hexempt hfetched hagrees =>
        rw [ensure_of_configured hconfigured, ← List.append_nil exchanges]
        refine (trace_owns_iff.mpr (.inr ⟨hexempt, _, hfetched, rfl⟩)).bind ?_
        simp only [verdict, hagrees]
        exact .done _
    | adopted view hconfigured hexempt hfetched hagrees hsync =>
        rw [ensure_of_configured hconfigured]
        refine (trace_owns_iff.mpr (.inr ⟨hexempt, _, hfetched, rfl⟩)).bind ?_
        simp only [verdict, hagrees]
        exact Program.trace_map_iff.mpr ⟨_, trace_sync_iff.mpr hsync, rfl⟩
    | direct hconfigured hexempt hsync =>
        rw [ensure_of_configured hconfigured, ← List.nil_append exchanges]
        refine (trace_owns_iff.mpr (.inl ⟨hexempt, rfl, rfl⟩)).bind ?_
        exact Program.trace_map_iff.mpr ⟨_, trace_sync_iff.mpr hsync, rfl⟩

end Login

namespace FederatedAuth

variable {now : Moment} {auth : FederatedAuth} {org : Option String} {guarded : Bool}
  {exchanges : List Exchange} {reconciled : Reconciled FederatedAuth}

/-- What a pass makes of a login that is not left alone. -/
def after (auth : FederatedAuth) (outcome : PassResult × Conditions) :
    Reconciled FederatedAuth where
  resource := {
    metadata :=
      if outcome.1.isOk then auth.metadata.setApplied FederatedAuthSpec.codec auth.spec
      else auth.metadata
    spec := auth.spec
    conditions := outcome.2 }
  result := outcome.1

/-- A pass over a login goes one of these ways, unless the login is left alone. -/
theorem trace_reconcile_iff :
    (auth.reconcile now org guarded).Trace exchanges reconciled ↔
      (auth.metadata.isSkipped = true ∧ exchanges = [] ∧ reconciled = .skipped auth) ∨
        (auth.metadata.isSkipped = false ∧
          ∃ outcome, Login.Course now auth org guarded auth.conditions exchanges outcome ∧
            reconciled = after auth outcome) := by
  cases hskipped : auth.metadata.isSkipped with
  | true =>
      have hreconcile : auth.reconcile now org guarded = .done (.skipped auth) := by
        unfold reconcile
        rw [hskipped]
        rfl
      rw [hreconcile, Program.trace_done_iff]
      simp
  | false =>
      have hreconcile : auth.reconcile now org guarded =
          (Login.ensure now auth org guarded auth.conditions).bind fun outcome =>
            .done (after auth outcome) := by
        unfold reconcile
        rw [hskipped]
        rfl
      rw [hreconcile, Program.trace_map_iff]
      simp only [Login.trace_ensure_iff, Bool.false_eq_true, false_and, false_or, true_and]

end FederatedAuth

end CloudSteward
