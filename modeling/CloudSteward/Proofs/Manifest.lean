import CloudSteward.Proofs.Declared
import CloudSteward.Proofs.FeatureIds
import CloudSteward.Proofs.Time.Restoring
import CloudSteward.Store

/-!
# Manifests survive being written

A manifest is restored by its codec, part by part.  The parts that an author writes were
dealt with in `CloudSteward.Proofs.Declared`; what is left are the parts that the operator
reports: identifiers of features in both of their shapes, dates, phases, statuses and
conditions.  A part that is left out of the text is the one that the reader takes for granted,
and a resource names its kind first, so its reader is known before any other member comes.
So both texts of a resource, the compact one and the indented one, are read as that resource
(`Resource.decode_texts`).
-/

namespace CloudSteward

open Json

/-! ## Parts of a status -/

theorem Moment.restores {n : Nat} (moment : Moment) : codec.Restores n moment := by
  refine Codec.restores_spelled ?_
  rw [moment.ofString_text]
  rfl

theorem Moment.restores_optional {n : Nat} (moment : Option Moment) :
    (Codec.optional codec).Restores n moment :=
  Codec.restores_optional fun moment _ => ⟨moment.restores, by rintro ⟨⟩⟩

namespace FeatureId

theorem restores (id : FeatureId) : codec.Restores 1 id where
  fits := by
    cases id with
    | plain => trivial
    | bucket group name =>
        exact List.forall_mem_cons.mpr ⟨trivial, List.forall_mem_singleton.mpr trivial⟩
  reads manner node hspells := read_eq_ok_iff.mpr ⟨codec.write id, hspells, identifies_write id⟩

theorem write_ne_null (id : FeatureId) : codec.write id ≠ .null := by
  cases id <;> rintro ⟨⟩

end FeatureId

theorem FeatureUsage.restores (usage : FeatureUsage) : codec.Restores 2 usage := by
  have hid : (Codec.optional FeatureId.codec).Restores 1 usage.featureId :=
    Codec.restores_optional fun id _ => ⟨id.restores, id.write_ne_null⟩
  refine Record.restores (by decide) (.cons (.mandatory (Codec.restores_string _)) ?_)
  exact .cons (.sparse hid Option.isNone_iff_eq_none.mp rfl) .nil

theorem Phase.restores {n : Nat} (phase : Phase) : codec.Restores n phase :=
  Codec.restores_enumeration (by cases phase <;> rfl)

/-- Usages and an error that are left out are empty, as they are in a new status. -/
theorem Status.restores (status : Status) : codec.Restores 4 status := by
  have husages : (Codec.list FeatureUsage.codec).Restores 3 status.usages :=
    Codec.restores_list fun usage _ => usage.restores
  refine Record.restores (by decide) (.cons (.mandatory (Codec.restores_string _)) ?_)
  refine .cons (.defaulted (Codec.restores_string _)) ?_
  refine .cons (.defaulted (Codec.restores_string _)) ?_
  refine .cons (.defaulted (Codec.restores_string _)) ?_
  refine .cons (.defaulted (Codec.restores_string _)) ?_
  refine .cons (.defaulted (Moment.restores_optional _)) ?_
  refine .cons (.defaulted (Moment.restores_optional _)) ?_
  refine .cons (.sparse husages List.isEmpty_iff.mp rfl) ?_
  refine .cons (.mandatory (Phase.restores _)) ?_
  exact .cons (.sparse (Codec.restores_string _) String.isEmpty_iff.mp rfl) .nil

/-! ## Conditions -/

theorem ConditionKind.restores {n : Nat} (kind : ConditionKind) : codec.Restores n kind :=
  Codec.restores_enumeration (by cases kind <;> rfl)

theorem Condition.restores (condition : Condition) : codec.Restores 1 condition := by
  have htext (text : Option String) : (Codec.optional .string).Restores 0 text :=
    Codec.restores_optional fun text _ => ⟨Codec.restores_string text, by rintro ⟨⟩⟩
  refine Record.restores (by decide) (.cons (.mandatory (ConditionKind.restores _)) ?_)
  refine .cons (.mandatory (Codec.restores_boolean _)) ?_
  refine .cons (.sparse (htext condition.reason) Option.isNone_iff_eq_none.mp rfl) ?_
  refine .cons (.sparse (htext condition.message) Option.isNone_iff_eq_none.mp rfl) ?_
  exact .cons (.mandatory (Moment.restores _)) .nil

namespace Conditions

theorem restores (conditions : Conditions) : codec.Restores 2 conditions := by
  have hlist : (Codec.list Condition.codec).Restores 2 conditions.entries :=
    Codec.restores_list fun condition _ => condition.restores
  refine ⟨hlist.fits, fun manner node hspells => ?_⟩
  have hread := hlist.reads manner hspells
  show ((Codec.list Condition.codec).read manner node).map Conditions.mk = _
  rw [hread]
  rfl

theorem eq_empty_of_isEmpty {conditions : Conditions} (h : conditions.isEmpty = true) :
    conditions = .empty :=
  congrArg mk (List.isEmpty_iff.mp h)

end Conditions

/-! ## Resources -/

theorem ProjectStatus.restores (status : ProjectStatus) : codec.Restores 6 status := by
  have hconditions : Conditions.codec.Restores 5 status.conditions :=
    status.conditions.restores.mono (by decide)
  have hintegrations : (Codec.list Status.codec).Restores 5 status.integrations :=
    Codec.restores_list fun status _ => status.restores
  refine Record.restores (by decide) (.cons (.defaulted (Codec.restores_string _)) ?_)
  refine .cons (.sparse hconditions Conditions.eq_empty_of_isEmpty rfl) ?_
  exact .cons (.sparse hintegrations List.isEmpty_iff.mp rfl) .nil

theorem Project.restores (project : Project) : codec.Restores 7 project := by
  refine Record.restores (by decide)
    (.cons (.mandatory (project.metadata.restores.mono (by decide))) ?_)
  refine .cons (.mandatory (project.spec.restores.mono (by decide))) ?_
  exact .cons (.defaulted project.status.restores) .nil

theorem DataFederation.restores (federation : DataFederation) : codec.Restores 7 federation := by
  refine Record.restores (by decide)
    (.cons (.mandatory (federation.metadata.restores.mono (by decide))) ?_)
  refine .cons (.mandatory (federation.spec.restores.mono (by decide))) (.cons (.defaulted ?_) .nil)
  exact Record.restores (by decide) (.cons
    (.sparse (federation.conditions.restores.mono (by decide)) Conditions.eq_empty_of_isEmpty rfl)
    .nil)

theorem FederatedAuth.restores (auth : FederatedAuth) : codec.Restores 7 auth := by
  refine Record.restores (by decide)
    (.cons (.mandatory (auth.metadata.restores.mono (by decide))) ?_)
  refine .cons (.mandatory (auth.spec.restores.mono (by decide))) (.cons (.defaulted ?_) .nil)
  exact Record.restores (by decide) (.cons
    (.sparse (auth.conditions.restores.mono (by decide)) Conditions.eq_empty_of_isEmpty rfl) .nil)

namespace Resource

/-- The members behind the kind are taken in as they are. -/
theorem takeMembers_of_spells {reader : Node → Except Fault Resource} {members : Members}
    {values : List (String × Json)} (hspells : members.Spells values)
    (hnames : ∀ member ∈ values, member.1 ≠ kindName) :
    takeMembers (some reader) members = .ok (reader, members) := by
  induction values generalizing members with
  | nil =>
      obtain ⟨stop, rfl⟩ := hspells.exists_close
      rfl
  | cons member values ih =>
      obtain ⟨hname, hmore⟩ := List.forall_mem_cons.mp hnames
      obtain ⟨obstacle, keyStop, behindKey, node, resting, rest, rfl, hnode, hrest⟩ :=
        hspells.exists_member
      rw [takeMembers, if_neg hname, hnode.sound]
      simp only [ih hrest hmore]
      rfl

/-- A manifest whose first member names its kind is read as that kind says. -/
theorem readNode_of_spells {reader : Node → Except Fault Resource} {name : String}
    (hreader : Codec.variant readers name = .ok reader) {values : List (String × Json)}
    (hnames : ∀ member ∈ values, member.1 ≠ kindName) {node : Node}
    (hspells : node.Spells (.object ((kindName, .string name) :: values))) :
    ∃ inner, inner.Spells (.object values) ∧ readNode node = reader inner := by
  obtain ⟨start, depth, members, rfl, hshallow, hmembers⟩ := hspells.exists_map
  obtain ⟨obstacle, keyStop, behindKey, node, resting, rest, rfl, hnode, hrest⟩ :=
    hmembers.exists_member
  have hscalar : node.Spells (Scalar.string name).contents := hnode
  obtain ⟨begin, stop, quoted, blocked, rfl⟩ := hscalar.exists_scalar
  have hdepth : depth ≤ depthLimit := by
    refine Nat.not_lt.mp fun hdeep => ?_
    rw [depthFault, if_pos hdeep] at hshallow
    cases hshallow
  refine ⟨.map start depth rest, hrest.map hdepth start, ?_⟩
  rw [readNode, Codec.enter, hshallow, takeMembers, if_pos rfl]
  simp only [readKind, hreader, takeMembers_of_spells hrest hnames]
  rfl

theorem name_ne_kindName {resource : Resource} :
    ∀ member ∈ resource.members, member.1 ≠ kindName := by
  cases resource with
  | project | dataFederation | federatedAuth => exact Record.name_ne_of_mem_members (by decide)

theorem restores (resource : Resource) : codec.Restores 7 resource where
  fits := by
    have hmembers : (Json.object resource.members).Fits 7 := by
      cases resource with
      | project value => exact value.restores.fits
      | dataFederation value => exact value.restores.fits
      | federatedAuth value => exact value.restores.fits
    exact List.forall_mem_cons.mpr ⟨trivial, hmembers⟩
  reads manner node hspells := by
    show readNode node = .ok resource
    cases resource with
    | project value | dataFederation value | federatedAuth value =>
        obtain ⟨inner, hinner, hread⟩ := readNode_of_spells rfl name_ne_kindName hspells
        rw [hread, value.restores.reads .kept hinner]
        rfl

/-- A resource is read from its manifest. -/
theorem decode_content (resource : Resource) :
    codec.decode (Store.content resource) = .ok resource :=
  resource.restores.decode_encodeIndented (by decide)

/-- Every resource is read from both of its texts as it was, whatever strings, dates and
conditions it holds. -/
theorem decode_texts (resource : Resource) :
    codec.decode (Text.ofString (codec.encode resource)) = .ok resource ∧
      codec.decode (Text.ofString (codec.encodeIndented resource)) = .ok resource :=
  ⟨resource.restores.decode_encode (by decide), resource.decode_content⟩

end Resource

end CloudSteward
