import CloudSteward.Proofs.Frame

/-!
# What a fingerprint tells apart

A fingerprint is the text of two objects, the metadata and the specification of a resource.
Nothing in it is named like the kind of a resource (`name_ne_kindName_of_declared`), and yet
resources of different kinds never share one: a specification is of one kind only, because what
is written of it shows which (`kind_eq_of_writtenSpec_eq`).  So a fingerprint changes exactly
if the kind, the metadata or the specification does (`fingerprint_separates`).
-/

namespace CloudSteward.Resource

open Json

variable {first second : Resource}

/-- What is declared are the metadata and the specification, and the latter is of one kind. -/
theorem declared_eq_iff : first.declared = second.declared ↔
    first.kind = second.kind ∧ first.metadata = second.metadata ∧ first.spec = second.spec := by
  constructor
  · intro h
    have hparts : first.metadata = second.metadata ∧ first.spec = second.spec := by
      cases first <;> cases second <;> simp_all [declared, metadata, spec]
    exact ⟨kind_eq_of_spec_eq hparts.2, hparts⟩
  · rintro ⟨-, hmetadata, hspec⟩
    cases first <;> cases second <;> simp_all [declared, metadata, spec]

/-- The members that are written of the specification. -/
def specMembers : Resource → List (String × Json)
  | .project value => ProjectSpec.record.members value.spec
  | .dataFederation value => DataFederationSpec.record.members value.spec
  | .federatedAuth value => FederatedAuthSpec.record.members value.spec

theorem writtenSpec_eq (resource : Resource) :
    resource.writtenSpec = .object resource.specMembers := by
  cases resource <;> rfl

/-- No member of the metadata or of a specification is named like the kind. -/
theorem name_ne_kindName_of_declared {resource : Resource} :
    ∀ member ∈ Metadata.record.members resource.metadata ++ resource.specMembers,
      member.1 ≠ kindName := by
  refine List.forall_mem_append.mpr ⟨Record.name_ne_of_mem_members (by decide), ?_⟩
  cases resource with
  | project | dataFederation | federatedAuth => exact Record.name_ne_of_mem_members (by decide)

/-- Two resources have the same fingerprint if and only if they are of the same kind, with the
same metadata and the same specification.  The kind is not even part of the text: it is that of
two objects, neither of which has a member of this name. -/
theorem fingerprint_separates (first second : Resource) :
    (first.fingerprint = second.fingerprint ↔
      first.kind = second.kind ∧ first.metadata = second.metadata ∧ first.spec = second.spec) ∧
    first.fingerprint = (Json.array [.object (Metadata.record.members first.metadata),
      .object first.specMembers]).compact ∧
    ∀ member ∈ Metadata.record.members first.metadata ++ first.specMembers,
      member.1 ≠ kindName := by
  refine ⟨fingerprint_eq_iff.trans declared_eq_iff, ?_, name_ne_kindName_of_declared⟩
  rw [fingerprint_eq, writtenSpec_eq]
  rfl

end CloudSteward.Resource
