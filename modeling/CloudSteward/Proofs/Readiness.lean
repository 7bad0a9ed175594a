import CloudSteward.Proofs.Conditions
import CloudSteward.Proofs.Login.Pass
import CloudSteward.Proofs.Project.Pass

/-!
# When a resource is ready

A pass publishes its result as that of the resource, so the resource is ready exactly if
the pass is fine.  A pass over a login publishes it only once it knows that it may touch
the config: if it ends before (`Login.endsEarly`), whatever was said about the resource
as a whole stands.
-/

namespace CloudSteward

/-- What was published about a resource. -/
def Resource.conditions : Resource → Conditions
  | .project value => value.status.conditions
  | .dataFederation value => value.conditions
  | .federatedAuth value => value.conditions

variable {now : Moment} {exchanges : List Exchange}

namespace Project

variable {guarded : Bool} {project : Project} {reconciled : Reconciled Project}

theorem isTrue_ready_of_reconcile (hskipped : project.metadata.isSkipped = false)
    (h : (project.reconcile now guarded).Trace exchanges reconciled) :
    reconciled.resource.status.conditions.isTrue .ready = reconciled.result.isOk := by
  rcases trace_reconcile h with ⟨hskip, _⟩ | ⟨_, _, _, rfl⟩ | ⟨_, _, ensured, _, rfl⟩
  · exact absurd (hskip.symm.trans hskipped) Bool.false_ne_true.symm
  · exact Conditions.isTrue_publish_self
  · exact Conditions.isTrue_publish_self

end Project

namespace DataFederation

variable {federation : DataFederation} {reconciled : Reconciled DataFederation}

/-- What a pass gives for a data federation, with what it says about the endpoints. -/
def after (now : Moment) (federation : DataFederation) (outcome : PassResult × Conditions) :
    Reconciled DataFederation where
  resource := { federation with conditions := outcome.2.publish now .ready outcome.1 }
  result := outcome.1

/-- The ways in which a pass over a data federation can go. -/
theorem trace_reconcile (h : (federation.reconcile now).Trace exchanges reconciled) :
    (federation.metadata.isSkipped = true ∧ exchanges = [] ∧ reconciled = .skipped federation) ∨
      (federation.metadata.isSkipped = false ∧ ∃ outcome,
        reconciled = after now federation outcome) := by
  unfold reconcile at h
  by_cases hskipped : federation.metadata.isSkipped = true
  · rw [if_pos hskipped] at h
    obtain ⟨rfl, rfl⟩ := Program.trace_done_iff.mp h
    exact .inl ⟨hskipped, rfl, rfl⟩
  · rw [if_neg hskipped] at h
    obtain ⟨outcome, _, rfl⟩ := Program.trace_map_iff.mp h
    exact .inr ⟨Bool.not_eq_true _ ▸ hskipped, outcome, rfl⟩

theorem isTrue_ready_of_reconcile (hskipped : federation.metadata.isSkipped = false)
    (h : (federation.reconcile now).Trace exchanges reconciled) :
    reconciled.resource.conditions.isTrue .ready = reconciled.result.isOk := by
  rcases trace_reconcile h with ⟨hskip, _⟩ | ⟨_, outcome, rfl⟩
  · exact absurd (hskip.symm.trans hskipped) Bool.false_ne_true.symm
  · exact Conditions.isTrue_publish_self

end DataFederation

namespace Login

variable {auth : FederatedAuth} {org : Option String} {guarded : Bool} {conditions : Conditions}
  {outcome : PassResult × Conditions}

/-- Whether a pass over a login ended before it knew that it may touch the config: there
is no organization, or the config is not ours, or that cannot be told. -/
def endsEarly (result : PassResult) : Bool :=
  match result.reason with
  | some .apiAccessNotConfigured => true
  | some .deletionProtection => true
  | some .internal => true
  | _ => false

/-- What a pass over a login says about the login as a whole. -/
structure Announced (conditions : Conditions) (outcome : PassResult × Conditions) : Prop where
  mirrored : endsEarly outcome.1 = false → outcome.2.isTrue .ready = outcome.1.isOk
  untouched : endsEarly outcome.1 = true → outcome.1.isTerminated = true ∧
    outcome.2.get? .ready = conditions.get? .ready

theorem announced_publish {result : PassResult} (hearly : endsEarly result = true)
    (hresult : result.isTerminated = true) :
    Announced conditions (publish now conditions result) where
  mirrored h := absurd (hearly.symm.trans h) Bool.false_ne_true.symm
  untouched _ := ⟨hresult, Conditions.get?_publish_of_ne (by decide)⟩

theorem announced_publishAll {result : PassResult} (hlate : endsEarly result = false) :
    Announced conditions (publishAll now conditions result) where
  mirrored _ := Conditions.isTrue_publish_self
  untouched h := absurd (hlate.symm.trans h) Bool.false_ne_true

/-- Once a pass may touch the config, it ends well or says that the login is not ready. -/
theorem Synced.endsEarly_eq_false {spec : FederatedAuthSpec} {id : String} {result : PassResult}
    (h : Synced spec id exchanges result) : endsEarly result = false := by
  cases h with
  | unread error => rfl
  | equal view => rfl
  | updated view reply => cases reply <;> rfl

theorem Course.announced (h : Course now auth org guarded conditions exchanges outcome) :
    Announced conditions outcome := by
  cases h with
  | disabled => exact announced_publishAll rfl
  | unconfigured => exact announced_publish rfl rfl
  | undecided error => exact announced_publish rfl rfl
  | refused view => exact announced_publish rfl rfl
  | adopted view _ _ _ _ hsynced => exact announced_publishAll hsynced.endsEarly_eq_false
  | direct _ _ hsynced => exact announced_publishAll hsynced.endsEarly_eq_false

end Login

namespace Resource

variable {policy : Policy} {resource : Resource} {reconciled : Reconciled Resource}

/-- Whether a pass over a resource ended before it came to say anything about the resource
as a whole. -/
def Silent (resource : Resource) (result : PassResult) : Prop :=
  (∃ auth, resource = .federatedAuth auth) ∧ Login.endsEarly result = true

/-- After a pass over a resource that is not left alone, the resource is ready exactly if
the pass was fine; only a pass over a login that ends before it may touch the config is
terminated and leaves what was said before. -/
theorem ready_iff_isOk_of_reconcile (hskipped : resource.metadata.isSkipped = false)
    (h : (resource.reconcile policy now).Trace exchanges reconciled) :
    (¬resource.Silent reconciled.result →
        (reconciled.resource.conditions.isTrue .ready = true ↔ reconciled.result.isOk = true)) ∧
      (resource.Silent reconciled.result → reconciled.result.isTerminated = true ∧
        reconciled.resource.conditions.get? .ready = resource.conditions.get? .ready) := by
  cases resource with
  | project project =>
      obtain ⟨reconciled, hpass, rfl⟩ := Program.trace_map_iff.mp h
      refine ⟨fun _ => ?_, fun ⟨⟨_, hkind⟩, _⟩ => by cases hkind⟩
      exact Bool.eq_iff_iff.mp (Project.isTrue_ready_of_reconcile hskipped hpass)
  | dataFederation federation =>
      obtain ⟨reconciled, hpass, rfl⟩ := Program.trace_map_iff.mp h
      refine ⟨fun _ => ?_, fun ⟨⟨_, hkind⟩, _⟩ => by cases hkind⟩
      exact Bool.eq_iff_iff.mp (DataFederation.isTrue_ready_of_reconcile hskipped hpass)
  | federatedAuth auth =>
      obtain ⟨reconciled, hpass, rfl⟩ := Program.trace_map_iff.mp h
      rcases FederatedAuth.trace_reconcile_iff.mp hpass with
        ⟨hskip, _⟩ | ⟨_, outcome, hcourse, rfl⟩
      · exact absurd (hskip.symm.trans hskipped) Bool.false_ne_true.symm
      · have hannounced := hcourse.announced
        refine ⟨fun hspoken => ?_, fun hsilent => hannounced.untouched hsilent.2⟩
        have hlate : Login.endsEarly outcome.1 = false :=
          Bool.not_eq_true _ ▸ fun hearly => hspoken ⟨⟨auth, rfl⟩, hearly⟩
        exact Bool.eq_iff_iff.mp (hannounced.mirrored hlate)

/-! ### A login that stays ready -/

/-- A login that is enabled, and that an earlier pass found ready. -/
def readyLogin : FederatedAuth where
  metadata := .new "sso"
  spec := {
    enabled := true
    domainAllowList := ["example.com"]
    domainRestriction := true
    roleGrants := [] }
  conditions := Conditions.empty.confirm MemoryCloud.creationTime .ready ""

/-- A policy that names no organization. -/
def homeless : Policy where
  org := none
  guardObjects := true
  guardParts := true

/-- Without an organization a pass over the login does nothing. -/
theorem trace_homeless :
    ((federatedAuth readyLogin).reconcile homeless MemoryCloud.creationTime).Trace []
      ((FederatedAuth.after readyLogin (Login.publish MemoryCloud.creationTime
        readyLogin.conditions Login.unconfigured)).map .federatedAuth) := by
  refine Program.trace_map_iff.mpr
    ⟨_, FederatedAuth.trace_reconcile_iff.mpr (.inr ⟨rfl, _, ?_, rfl⟩), rfl⟩
  exact .unconfigured rfl fun id hconfigured => by cases hconfigured.org_eq

/-- The pass is terminated, and the login is as ready as it was. -/
theorem ready_stands_without_org :
    ∃ reconciled, ((federatedAuth readyLogin).reconcile homeless
        MemoryCloud.creationTime).Trace [] reconciled ∧
      reconciled.result.isTerminated = true ∧
      reconciled.resource.conditions.get? .ready =
        (federatedAuth readyLogin).conditions.get? .ready :=
  ⟨_, trace_homeless, (ready_iff_isOk_of_reconcile rfl trace_homeless).2 ⟨⟨_, rfl⟩, rfl⟩⟩

/-- So a resource may be ready although its last pass was not fine. -/
theorem not_forall_ready_iff_isOk :
    ¬∀ (policy : Policy) (now : Moment) (resource : Resource) (exchanges : List Exchange)
      (reconciled : Reconciled Resource), resource.metadata.isSkipped = false →
      (resource.reconcile policy now).Trace exchanges reconciled →
        (reconciled.resource.conditions.isTrue .ready = true ↔
          reconciled.result.isOk = true) := by
  intro h
  have hready := (h homeless _ (.federatedAuth readyLogin) _ _ rfl trace_homeless).mp rfl
  exact Bool.false_ne_true hready

end Resource

end CloudSteward
