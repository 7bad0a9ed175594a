import CloudSteward.Operator.Schedule
import CloudSteward.Proofs.Applied

/-!
# The declared part of a resource

What the author of a resource declares is its metadata and its specification.  Both are
restored by their codecs, so two resources have the same fingerprint exactly if they declare
the same (`Resource.fingerprint_eq_iff`), although the fingerprint does not name the kind.
-/

namespace CloudSteward

open Json

/-! ## Metadata -/

namespace Annotations

theorem eq_of_entries_eq {first second : Annotations} (h : first.entries = second.entries) :
    first = second := by
  cases first
  cases second
  cases h
  rfl

theorem eq_empty_of_isEmpty {annotations : Annotations} (h : annotations.isEmpty = true) :
    annotations = .empty :=
  eq_of_entries_eq (List.isEmpty_iff.mp h)

theorem insertEntry_of_forall_lt {name text : String} {entries : List (String × String)}
    (h : ∀ entry ∈ entries, entry.1 < name) :
    insertEntry name text entries = entries ++ [(name, text)] := by
  induction entries with
  | nil => rfl
  | cons head rest ih =>
      obtain ⟨hhead, hrest⟩ := List.forall_mem_cons.mp h
      obtain ⟨first, old⟩ := head
      have hne : name ≠ first := fun heq => String.lt_irrefl first (heq ▸ hhead)
      rw [insertEntry, if_neg (String.lt_asymm hhead), if_neg hne, ih hrest, List.cons_append]

/-- Entries that come in ascending order are put behind each other. -/
theorem entries_foldl_insert {annotations : Annotations} {entries : List (String × String)}
    (h : (annotations.entries ++ entries).Pairwise fun first second => first.1 < second.1) :
    (entries.foldl (fun annotations entry => annotations.insert entry.1 entry.2)
      annotations).entries = annotations.entries ++ entries := by
  induction entries generalizing annotations with
  | nil => exact (List.append_nil _).symm
  | cons entry rest ih =>
      have hlast : (annotations.insert entry.1 entry.2).entries = annotations.entries ++ [entry] :=
        insertEntry_of_forall_lt fun other hother =>
          (List.pairwise_append.mp h).2.2 other hother entry List.mem_cons_self
      have hsplit : annotations.entries ++ entry :: rest =
          (annotations.insert entry.1 entry.2).entries ++ rest := by
        rw [hlast, List.append_assoc, List.singleton_append]
      rw [hsplit] at h ⊢
      exact ih h

theorem ofList_entries (annotations : Annotations) : ofList annotations.entries = annotations :=
  eq_of_entries_eq (entries_foldl_insert (show (empty.entries ++ annotations.entries).Pairwise _
    from annotations.ascending))

end Annotations

theorem Metadata.restores (metadata : Metadata) : codec.Restores 2 metadata := by
  have hannotations : Annotations.codec.Restores 1 metadata.annotations :=
    Codec.restores_map (fun entry _ => Codec.restores_string entry.2)
      metadata.annotations.ofList_entries
  refine Record.restores (by decide) (.cons (.mandatory (Codec.restores_string metadata.name)) ?_)
  refine .cons (.sparse (Codec.restores_string metadata.space) String.isEmpty_iff.mp rfl) ?_
  exact .cons (.sparse hannotations Annotations.eq_empty_of_isEmpty rfl) .nil

/-! ## Specifications -/

theorem Endpoint.restores (endpoint : Endpoint) : codec.Restores 1 endpoint := by
  refine Record.restores (by decide) (.cons (.mandatory (Codec.restores_string _)) ?_)
  refine .cons (.defaulted (Codec.restores_string _)) ?_
  exact .cons (.defaulted (Codec.restores_string _)) .nil

theorem DataFederationSpec.restores (spec : DataFederationSpec) : codec.Restores 3 spec := by
  refine Record.restores (by decide) (.cons (.mandatory (Codec.restores_string _)) ?_)
  refine .cons (.mandatory (Codec.restores_string _)) ?_
  exact .cons (.defaulted (Codec.restores_list fun endpoint _ => endpoint.restores)) .nil

theorem FederatedAuthSpec.restores (spec : FederatedAuthSpec) : codec.Restores 3 spec := by
  have hstrings (strings : List String) : (Codec.list .string).Restores 2 strings :=
    Codec.restores_list fun _ _ => Codec.restores_string _
  refine Record.restores (by decide) (.cons (.defaulted (Codec.restores_boolean _)) ?_)
  refine .cons (.defaulted (hstrings _)) (.cons (.defaulted (Codec.restores_boolean _)) ?_)
  exact .cons (.defaulted (hstrings _)) .nil

/-! ## Declared parts -/

namespace Resource

/-- What the author of a resource wrote. -/
inductive Declared where
  | project (metadata : Metadata) (spec : ProjectSpec)
  | dataFederation (metadata : Metadata) (spec : DataFederationSpec)
  | federatedAuth (metadata : Metadata) (spec : FederatedAuthSpec)
deriving DecidableEq

def declared : Resource → Declared
  | .project value => .project value.metadata value.spec
  | .dataFederation value => .dataFederation value.metadata value.spec
  | .federatedAuth value => .federatedAuth value.metadata value.spec

/-! ## Fingerprints -/

/-- What is written of the specification of a resource. -/
def writtenSpec : Resource → Json
  | .project value => ProjectSpec.codec.write value.spec
  | .dataFederation value => DataFederationSpec.codec.write value.spec
  | .federatedAuth value => FederatedAuthSpec.codec.write value.spec

theorem fingerprint_eq (resource : Resource) : resource.fingerprint =
    (Json.array [Metadata.codec.write resource.metadata, resource.writtenSpec]).compact := by
  cases resource <;> rfl

theorem fits_writtenSpec (resource : Resource) : resource.writtenSpec.Fits 3 := by
  cases resource with
  | project value => exact value.spec.restores.fits
  | dataFederation value => exact value.spec.restores.fits
  | federatedAuth value => exact value.spec.restores.fits

/-- Fingerprints that are the same show the same metadata and the same specification. -/
theorem written_eq_of_fingerprint_eq {first second : Resource}
    (h : first.fingerprint = second.fingerprint) :
    Metadata.codec.write first.metadata = Metadata.codec.write second.metadata ∧
      first.writtenSpec = second.writtenSpec := by
  have hfits (resource : Resource) :
      (Json.array [Metadata.codec.write resource.metadata, resource.writtenSpec]).Fits 4 :=
    List.forall_mem_cons.mpr ⟨resource.metadata.restores.fits.mono (by decide),
      List.forall_mem_singleton.mpr resource.fits_writtenSpec⟩
  rw [fingerprint_eq, fingerprint_eq] at h
  have heq := Json.array.inj (eq_of_compact_eq (hfits first) (hfits second) (by decide) h)
  obtain ⟨hmetadata, hspec⟩ := List.cons.inj heq
  exact ⟨hmetadata, (List.cons.inj hspec).1⟩

/-- Only data federations name a project, and only logins may be enabled. -/
theorem member?_writtenSpec (resource : Resource) :
    (resource.writtenSpec.member? "projectId").isSome = (resource.kind == "DataFederation") ∧
      (resource.writtenSpec.member? "enabled").isSome = (resource.kind == "FederatedAuth") := by
  cases resource with
  | project value =>
      obtain ⟨metadata, ⟨name, accessRoles, integrations⟩, status⟩ := value
      cases accessRoles <;> cases integrations <;> exact ⟨rfl, rfl⟩
  | dataFederation value => exact ⟨rfl, rfl⟩
  | federatedAuth value => exact ⟨rfl, rfl⟩

theorem kind_eq_of_writtenSpec_eq {first second : Resource}
    (h : first.writtenSpec = second.writtenSpec) : first.kind = second.kind := by
  obtain ⟨hnamesFirst, henabledFirst⟩ := first.member?_writtenSpec
  obtain ⟨hnamesSecond, henabledSecond⟩ := second.member?_writtenSpec
  have hnames := hnamesFirst.symm.trans (h ▸ hnamesSecond)
  have henabled := henabledFirst.symm.trans (h ▸ henabledSecond)
  cases first <;> cases second <;> simp_all [kind]

/-- Fingerprints tell declared parts apart. -/
theorem fingerprint_eq_iff {first second : Resource} :
    first.fingerprint = second.fingerprint ↔ first.declared = second.declared := by
  constructor
  · intro h
    obtain ⟨hwritten, hspec⟩ := written_eq_of_fingerprint_eq h
    -- The kind is not part of a fingerprint, but no two kinds write the same specification.
    have hkind := kind_eq_of_writtenSpec_eq hspec
    have hmetadata : first.metadata = second.metadata :=
      first.metadata.restores.eq_of_write_eq second.metadata.restores (by decide) hwritten
    cases first with
    | project first =>
        cases second with
        | project second =>
            have hsame : first.spec = second.spec :=
              first.spec.restores.eq_of_write_eq second.spec.restores (by decide) hspec
            exact congrArg₂ Declared.project hmetadata hsame
        | _ => simp [kind] at hkind
    | dataFederation first =>
        cases second with
        | dataFederation second =>
            have hsame : first.spec = second.spec :=
              first.spec.restores.eq_of_write_eq second.spec.restores (by decide) hspec
            exact congrArg₂ Declared.dataFederation hmetadata hsame
        | _ => simp [kind] at hkind
    | federatedAuth first =>
        cases second with
        | federatedAuth second =>
            have hsame : first.spec = second.spec :=
              first.spec.restores.eq_of_write_eq second.spec.restores (by decide) hspec
            exact congrArg₂ Declared.federatedAuth hmetadata hsame
        | _ => simp [kind] at hkind
  · intro h
    rw [fingerprint_eq, fingerprint_eq]
    cases first <;> cases second <;> simp_all [declared, metadata, writtenSpec]

end Resource

end CloudSteward
