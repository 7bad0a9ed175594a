import CloudSteward.Proofs.Declared
import CloudSteward.Proofs.Integrations.Soundness
import CloudSteward.Proofs.Readiness

/-!
# What a pass leaves alone

A pass reports on a resource, it does not rewrite it: whoever answers its calls, the resource
comes back under the same name, with the same specification, and with the annotations that it
had.  The one annotation that a pass writes is the record of the specification that was applied,
and it writes it exactly if it is a pass over a project or a login, was made at all and is fine
(`Resource.records`).  So the metadata after a pass is told by the result alone
(`Resource.Passed.metadata_eq`); the rest of the frame is read off this equation.
-/

namespace CloudSteward

/-! ## Specifications of any kind -/

namespace Resource

inductive Spec where
  | project (spec : ProjectSpec)
  | dataFederation (spec : DataFederationSpec)
  | federatedAuth (spec : FederatedAuthSpec)
deriving DecidableEq

def spec : Resource → Spec
  | .project value => .project value.spec
  | .dataFederation value => .dataFederation value.spec
  | .federatedAuth value => .federatedAuth value.spec

/-- What the cloud calls the resource, as far as that is kept in its status. -/
def id? : Resource → Option String
  | .project value => some value.id
  | .dataFederation _ => none
  | .federatedAuth _ => none

/-- The statuses of integrations that are on record. -/
def statuses : Resource → List Status
  | .project value => value.status.integrations
  | .dataFederation _ => []
  | .federatedAuth _ => []

theorem kind_eq_of_spec_eq {first second : Resource} (h : first.spec = second.spec) :
    first.kind = second.kind := by
  cases first <;> cases second <;> simp_all [spec, kind]

namespace Spec

variable {metadata : Metadata} {spec : Spec}

/-- Whether specifications of this kind are put on record. -/
def isRecorded : Spec → Bool
  | .project _ => true
  | .dataFederation _ => false
  | .federatedAuth _ => true

/-- The metadata with the specification on record. -/
def mark (metadata : Metadata) : Spec → Metadata
  | .project spec => metadata.setApplied ProjectSpec.codec spec
  | .dataFederation _ => metadata
  | .federatedAuth spec => metadata.setApplied FederatedAuthSpec.codec spec

/-- The specification is the one that is read from the record. -/
def OnRecord (metadata : Metadata) : Spec → Prop
  | .project spec => metadata.applied ProjectSpec.codec = .ok (some spec)
  | .dataFederation _ => False
  | .federatedAuth spec => metadata.applied FederatedAuthSpec.codec = .ok (some spec)

@[simp] theorem name_mark : (spec.mark metadata).name = metadata.name := by
  cases spec <;> rfl

@[simp] theorem space_mark : (spec.mark metadata).space = metadata.space := by
  cases spec <;> rfl

theorem get?_mark_of_ne {name : String} (hname : name ≠ lastAppliedName) :
    (spec.mark metadata).annotations.get? name = metadata.annotations.get? name := by
  cases spec with
  | project spec => exact Annotations.get?_insert_of_ne hname
  | dataFederation spec => rfl
  | federatedAuth spec => exact Annotations.get?_insert_of_ne hname

theorem onRecord_mark (hrecorded : spec.isRecorded = true) :
    spec.OnRecord (spec.mark metadata) := by
  cases spec with
  | project spec => exact Project.applied_setApplied metadata spec
  | dataFederation spec => exact absurd hrecorded Bool.false_ne_true
  | federatedAuth spec => exact Metadata.applied_setApplied spec.restores (by decide)

end Spec

end Resource

/-! ## Passes over each kind -/

variable {now : Moment} {exchanges : List Exchange}

namespace Resource

variable {policy : Policy} {resource : Resource} {reconciled : Reconciled Resource}

/-- The ways in which a pass over a resource of any kind can go. -/
inductive Passed (policy : Policy) (now : Moment) :
    Resource → List Exchange → Reconciled Resource → Prop where
  | skipped {resource : Resource} : resource.metadata.isSkipped = true →
      Passed policy now resource [] (.skipped resource)
  | strayed {project : Project} : project.metadata.isSkipped = false →
      Passed policy now (.project project) [] ((Project.strayed now project).map .project)
  | ensured {project : Project} {exchanges : List Exchange} {ensured : Integrations.Ensured} :
      project.metadata.isSkipped = false →
      (Integrations.ensure now project policy.guardParts project.status.conditions).Trace
        exchanges ensured →
      Passed policy now (.project project) exchanges
        ((Project.after now project ensured).map .project)
  | federated {federation : DataFederation} {exchanges : List Exchange}
      {outcome : PassResult × Conditions} : federation.metadata.isSkipped = false →
      Passed policy now (.dataFederation federation) exchanges
        ((DataFederation.after now federation outcome).map .dataFederation)
  | authenticated {auth : FederatedAuth} {exchanges : List Exchange}
      {outcome : PassResult × Conditions} : auth.metadata.isSkipped = false →
      Passed policy now (.federatedAuth auth) exchanges
        ((FederatedAuth.after auth outcome).map .federatedAuth)

theorem passed_of_reconcile (h : (resource.reconcile policy now).Trace exchanges reconciled) :
    Passed policy now resource exchanges reconciled := by
  cases resource with
  | project project =>
      obtain ⟨reconciled, hpass, rfl⟩ := Program.trace_map_iff.mp h
      rcases Project.trace_reconcile hpass with ⟨hskipped, rfl, rfl⟩ | ⟨hattended, _, rfl, rfl⟩ |
        ⟨hattended, _, ensured, hensure, rfl⟩
      · exact @Passed.skipped policy now (.project project) hskipped
      · exact .strayed hattended
      · exact .ensured hattended hensure
  | dataFederation federation =>
      obtain ⟨reconciled, hpass, rfl⟩ := Program.trace_map_iff.mp h
      rcases DataFederation.trace_reconcile hpass with ⟨hskipped, rfl, rfl⟩ | ⟨hattended, _, rfl⟩
      · exact @Passed.skipped policy now (.dataFederation federation) hskipped
      · exact .federated hattended
  | federatedAuth auth =>
      obtain ⟨reconciled, hpass, rfl⟩ := Program.trace_map_iff.mp h
      rcases FederatedAuth.trace_reconcile_iff.mp hpass with
        ⟨hskipped, rfl, rfl⟩ | ⟨hattended, _, _, rfl⟩
      · exact @Passed.skipped policy now (.federatedAuth auth) hskipped
      · exact .authenticated hattended

/-- A resource that is left alone comes back as it was, without a call. -/
theorem Passed.eq_skipped (h : Passed policy now resource exchanges reconciled)
    (hskipped : resource.metadata.isSkipped = true) :
    exchanges = [] ∧ reconciled = .skipped resource := by
  cases h with
  | skipped _ => exact ⟨rfl, rfl⟩
  | strayed hattended => exact absurd (hattended.symm.trans hskipped) Bool.false_ne_true
  | ensured hattended _ => exact absurd (hattended.symm.trans hskipped) Bool.false_ne_true
  | federated hattended => exact absurd (hattended.symm.trans hskipped) Bool.false_ne_true
  | authenticated hattended => exact absurd (hattended.symm.trans hskipped) Bool.false_ne_true

/-- A pass leaves the specification and the identity of a resource as they are. -/
theorem Passed.spec_eq (h : Passed policy now resource exchanges reconciled) :
    reconciled.resource.spec = resource.spec ∧ reconciled.resource.id? = resource.id? := by
  cases h <;> exact ⟨rfl, rfl⟩

/-- Whether a pass over a resource that ends with this result puts the specification on
record. -/
def records (resource : Resource) (result : PassResult) : Bool :=
  resource.spec.isRecorded && !resource.metadata.isSkipped && result.isOk

/-- The result of a pass tells what became of the metadata. -/
theorem Passed.metadata_eq (h : Passed policy now resource exchanges reconciled) :
    reconciled.resource.metadata =
      if resource.records reconciled.result then resource.spec.mark resource.metadata
      else resource.metadata := by
  unfold records
  cases h with
  | skipped hskipped => simp [Reconciled.skipped, hskipped]
  | strayed hattended =>
      have hfailed : Project.unidentified.isOk = false := rfl
      simp [Project.strayed, Reconciled.map, hfailed, spec, metadata]
  | @ensured project exchanges ensured hattended hensure =>
      show (if ensured.result.isOk = true then _ else _) = _
      simp [Project.after, Reconciled.map, spec, Spec.isRecorded, Spec.mark, metadata, hattended]
  | federated hattended => rfl
  | @authenticated auth exchanges outcome hattended =>
      show (if outcome.1.isOk = true then _ else _) = _
      simp [FederatedAuth.after, Reconciled.map, spec, Spec.isRecorded, Spec.mark, metadata,
        hattended]

/-- The statuses on record change only if the pass over the integrations gave new ones. -/
theorem Passed.statuses_eq (h : Passed policy now resource exchanges reconciled)
    (hchanged : reconciled.resource.statuses ≠ resource.statuses) :
    ∃ project ensured, resource = .project project ∧
      (Integrations.ensure now project policy.guardParts project.status.conditions).Trace
        exchanges ensured ∧ ensured.statuses = some reconciled.resource.statuses := by
  cases h with
  | @ensured project exchanges ensured hattended hensure =>
      refine ⟨project, ensured, rfl, hensure, ?_⟩
      have hafter : ((Project.after now project ensured).map Resource.project).resource.statuses =
          ensured.statuses.getD project.status.integrations := rfl
      rw [hafter] at hchanged ⊢
      cases hstatuses : ensured.statuses with
      | none =>
          rw [hstatuses] at hchanged
          exact absurd rfl hchanged
      | some reported => rw [Option.getD_some]
  | skipped _ => exact absurd rfl hchanged
  | strayed _ => exact absurd rfl hchanged
  | federated _ => exact absurd rfl hchanged
  | authenticated _ => exact absurd rfl hchanged

/-! ## The frame -/

/-- What the author of a resource set is the same in another one.  The record of what was
applied is not set by the author. -/
structure Repeats (resource theirs : Resource) : Prop where
  name : resource.metadata.name = theirs.metadata.name
  space : resource.metadata.space = theirs.metadata.space
  spec : resource.spec = theirs.spec
  others : ∀ name, name ≠ lastAppliedName →
    resource.metadata.annotations.get? name = theirs.metadata.annotations.get? name

theorem Repeats.refl (resource : Resource) : resource.Repeats resource :=
  ⟨rfl, rfl, rfl, fun _ _ => rfl⟩

theorem repeats_of_reconcile (h : (resource.reconcile policy now).Trace exchanges reconciled) :
    reconciled.resource.Repeats resource := by
  have hpassed := passed_of_reconcile h
  have hmetadata := hpassed.metadata_eq
  refine ⟨?name, ?space, hpassed.spec_eq.1, ?others⟩
  case name =>
    rw [hmetadata]
    split <;> simp
  case space =>
    rw [hmetadata]
    split <;> simp
  case others =>
    intro name hname
    rw [hmetadata]
    split
    · exact Spec.get?_mark_of_ne hname
    · rfl

/-- What a pass may change of a resource, and when. -/
structure Framed (policy : Policy) (now : Moment) (resource : Resource)
    (exchanges : List Exchange) (reconciled : Reconciled Resource) : Prop where
  kind : reconciled.resource.kind = resource.kind
  id : reconciled.resource.id? = resource.id?
  /-- No pass touches a name, a specification, or an annotation other than the record. -/
  repeats : reconciled.resource.Repeats resource
  recorded : resource.records reconciled.result = true →
    reconciled.resource.metadata = resource.spec.mark resource.metadata ∧
      resource.spec.OnRecord reconciled.resource.metadata
  unrecorded : resource.records reconciled.result = false →
    reconciled.resource.metadata.annotations = resource.metadata.annotations
  /-- New statuses come from a pass over integrations that gave some. -/
  statuses : reconciled.resource.statuses ≠ resource.statuses →
    ∃ project ensured, resource = .project project ∧
      (Integrations.ensure now project policy.guardParts project.status.conditions).Trace
        exchanges ensured ∧ ensured.statuses = some reconciled.resource.statuses
  skipped : resource.metadata.isSkipped = true →
    exchanges = [] ∧ reconciled.resource = resource ∧ reconciled.result = .ok

/-- Every pass over a resource keeps to its frame, whatever the cloud answers. -/
theorem framed_of_reconcile (h : (resource.reconcile policy now).Trace exchanges reconciled) :
    resource.Framed policy now exchanges reconciled := by
  have hpassed := passed_of_reconcile h
  obtain ⟨hspec, hid⟩ := hpassed.spec_eq
  have hmetadata := hpassed.metadata_eq
  refine ⟨kind_eq_of_spec_eq hspec, hid, repeats_of_reconcile h, ?recorded, ?unrecorded,
    hpassed.statuses_eq, ?skipped⟩
  case recorded =>
    intro hrecords
    rw [hrecords, if_pos rfl] at hmetadata
    have hkind : resource.spec.isRecorded = true := by
      simp only [records, Bool.and_eq_true] at hrecords
      exact hrecords.1.1
    exact ⟨hmetadata, hmetadata ▸ Spec.onRecord_mark hkind⟩
  case unrecorded =>
    intro hrecords
    rw [hrecords, if_neg Bool.false_ne_true] at hmetadata
    rw [hmetadata]
  case skipped =>
    intro hskipped
    obtain ⟨hcalls, rfl⟩ := hpassed.eq_skipped hskipped
    exact ⟨hcalls, rfl, rfl⟩

/-- The pass over the mixed cloud is fine, so it puts the specification on record. -/
theorem framed_mixed_pass :
    ∃ exchanges reconciled,
      ((Resource.project Integrations.twoRoles).reconcile ⟨none, false, false⟩
        MemoryCloud.creationTime).Trace exchanges reconciled ∧
      (Resource.project Integrations.twoRoles).records reconciled.result = true ∧
      (Resource.project Integrations.twoRoles).Framed ⟨none, false, false⟩
        MemoryCloud.creationTime exchanges reconciled := by
  obtain ⟨exchanges, htrace, _⟩ := MemoryCloud.execution_run
    ((Resource.project Integrations.twoRoles).reconcile ⟨none, false, false⟩
      MemoryCloud.creationTime)
    Integrations.mixedCloud
  refine ⟨exchanges, _, htrace, ?_, framed_of_reconcile htrace⟩
  cbv

end Resource

end CloudSteward
