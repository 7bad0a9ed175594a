import CloudSteward.Proofs.Integrations.Step
import Mathlib.Data.List.Forall2

/-!
# Where declared integrations and listed roles end up

Linking places every declared integration: it is linked to a role with its
identifier, or it claims a role without an `arn`, or it stays new (`Placement`,
`forall₂_placement`).  In turn every listed role is one that was declared, or one
that was claimed, or one to be removed (`cases_of_mem_remote`).  As the roles have
identifiers of their own, no two statuses act on the same role
(`nodup_acting_roleIds`).
-/

namespace CloudSteward

/-! ## Identifiers -/

theorem sharedIdentifier_eq_empty_iff {provider arn : String} :
    sharedIdentifier provider arn = "" ↔ arn = "" := by
  unfold sharedIdentifier
  by_cases harn : arn = ""
  · simp [harn]
  · simp [harn]

theorem Integration.identifier_eq (integration : Integration) :
    identifier integration = sharedIdentifier integration.provider integration.arn := rfl

theorem Role.identifier_eq (role : Role) :
    identifier role = sharedIdentifier role.provider role.arn := rfl

theorem Status.identifier_eq (status : Status) :
    identifier status = sharedIdentifier status.provider status.arn := rfl

theorem Role.identifier_ne_empty_iff {role : Role} : identifier role ≠ "" ↔ role.arn ≠ "" :=
  not_congr sharedIdentifier_eq_empty_iff

theorem Integration.identifier_ne_empty_iff {integration : Integration} :
    identifier integration ≠ "" ↔ integration.arn ≠ "" :=
  not_congr sharedIdentifier_eq_empty_iff

@[simp] theorem Status.identifier_linked (status : Status) (role : Role) :
    identifier (status.linked role) = identifier status := rfl

theorem knownAmong_eq_true_iff {α β : Type} [Identifiable α] [Identifiable β] {item : α}
    {others : List β} :
    knownAmong item others = true ↔
      identifier item ≠ "" ∧ ∃ other ∈ others, identifier other = identifier item := by
  simp [knownAmong]

theorem mem_difference_iff {α β : Type} [Identifiable α] [Identifiable β] {item : α}
    {left : List α} {right : List β} :
    item ∈ difference left right ↔
      item ∈ left ∧
        (identifier item = "" ∨ ∀ other ∈ right, identifier other ≠ identifier item) := by
  unfold difference
  rw [List.mem_filter, Bool.not_eq_true', ← Bool.not_eq_true, knownAmong_eq_true_iff]
  refine and_congr_right fun _ => ?_
  rw [not_and_or, Classical.not_not]
  simp

/-! ## Pairs of lists -/

theorem exists_right_of_forall₂ {α β : Type} {related : α → β → Prop} {left : List α}
    {right : List β} (h : List.Forall₂ related left right) {first : α} (hfirst : first ∈ left) :
    ∃ second ∈ right, related first second := by
  induction h with
  | nil => cases hfirst
  | cons hhead _ ih =>
      rcases List.mem_cons.mp hfirst with rfl | hrest
      · exact ⟨_, List.mem_cons_self, hhead⟩
      · obtain ⟨second, hsecond, hrelated⟩ := ih hrest
        exact ⟨second, List.mem_cons_of_mem _ hsecond, hrelated⟩

theorem exists_left_of_forall₂ {α β : Type} {related : α → β → Prop} {left : List α}
    {right : List β} (h : List.Forall₂ related left right) {second : β} (hsecond : second ∈ right) :
    ∃ first ∈ left, related first second := by
  have hflip : List.Forall₂ (fun second first => related first second) right left := h.flip
  exact exists_right_of_forall₂ hflip hsecond

/-- What is at some place of one list is related to what is there in the other. -/
theorem exists_getElem?_of_forall₂ {α β : Type} {related : α → β → Prop} {left : List α}
    {right : List β} (h : List.Forall₂ related left right) {index : Nat} {first : α}
    (hfirst : left[index]? = some first) :
    ∃ second, right[index]? = some second ∧ related first second := by
  induction h generalizing index with
  | nil => cases hfirst
  | @cons head other rest others hhead _ ih =>
      cases index with
      | zero =>
          obtain rfl := Option.some.inj hfirst
          exact ⟨other, rfl, hhead⟩
      | succ index => exact ih hfirst

/-- The partners are members of their lists. -/
theorem forall₂_mem {α β : Type} {related : α → β → Prop} {left : List α} {right : List β}
    (h : List.Forall₂ related left right) :
    List.Forall₂ (fun first second => first ∈ left ∧ second ∈ right ∧ related first second)
      left right := by
  induction h with
  | nil => exact .nil
  | cons hhead _ ih =>
      refine .cons ⟨List.mem_cons_self, List.mem_cons_self, hhead⟩ (ih.imp ?_)
      rintro first second ⟨hfirst, hsecond, hrelated⟩
      exact ⟨List.mem_cons_of_mem _ hfirst, List.mem_cons_of_mem _ hsecond, hrelated⟩

theorem forall₂_trans {α β γ : Type} {first : α → β → Prop} {second : β → γ → Prop}
    {third : α → γ → Prop} (htrans : ∀ a b c, first a b → second b c → third a c) {left : List α}
    {middle : List β} {right : List γ} (hfirst : List.Forall₂ first left middle)
    (hsecond : List.Forall₂ second middle right) : List.Forall₂ third left right := by
  induction hfirst generalizing right with
  | nil =>
      cases hsecond
      exact .nil
  | cons hhead _ ih =>
      cases hsecond with
      | cons hnext hrest => exact .cons (htrans _ _ _ hhead hnext) (ih hrest)

namespace Linking

/-! ## Roles -/

theorem sortRoles_perm (roles : List Role) : (sortRoles roles).Perm roles :=
  List.mergeSort_perm _ _

theorem pairwise_sortRoles (roles : List Role) :
    (sortRoles roles).Pairwise fun first second => first.roleId ≤ second.roleId := by
  have hsorted : (sortRoles roles).Pairwise fun first second =>
      decide (first.roleId ≤ second.roleId) = true := by
    refine List.pairwise_mergeSort ?_ ?_ roles
    · intro first second third hfirst hsecond
      exact decide_eq_true (String.le_trans (of_decide_eq_true hfirst) (of_decide_eq_true hsecond))
    · intro first second
      rcases String.le_total first.roleId second.roleId with h | h <;> simp [h]
  exact hsorted.imp of_decide_eq_true

@[simp] theorem mem_sortRoles_iff {roles : List Role} {role : Role} :
    role ∈ sortRoles roles ↔ role ∈ roles :=
  (sortRoles_perm roles).mem_iff

theorem roleFor?_eq_some {roles : List Role} {id : String} {role : Role}
    (h : roleFor? roles id = some role) : role ∈ roles ∧ identifier role = id := by
  have hmem := List.mem_of_getLast? h
  simpa using hmem

theorem ne_of_roleFor?_eq_none {roles : List Role} {id : String} (h : roleFor? roles id = none) :
    ∀ role ∈ roles, identifier role ≠ id := by
  have hnil := List.getLast?_eq_none_iff.mp h
  simpa using hnil

/-! ## Exact links -/

/-- A declared integration is linked to a role with its identifier, or there is
nothing to link it to. -/
theorem linkExact_cases (roles : List Role) (integration : Integration) :
    (identifier integration ≠ "" ∧ ∃ role ∈ roles, identifier role = identifier integration ∧
        linkExact roles (declare integration) = (declare integration).linked role) ∨
      ((identifier integration = "" ∨ ∀ role ∈ roles, identifier role ≠ identifier integration) ∧
        linkExact roles (declare integration) = declare integration) := by
  have hid : identifier (declare integration) = identifier integration := rfl
  unfold linkExact
  rw [hid]
  by_cases hempty : identifier integration = ""
  · exact .inr ⟨.inl hempty, by simp [hempty]⟩
  · cases hrole : roleFor? roles (identifier integration) with
    | some role =>
        obtain ⟨hmem, hsame⟩ := roleFor?_eq_some hrole
        exact .inl ⟨hempty, role, hmem, hsame, by simp [hempty]⟩
    | none => exact .inr ⟨.inr (ne_of_roleFor?_eq_none hrole), by simp [hempty]⟩

/-! ## Claims -/

/-- What claiming does: one after the other, statuses stay as they are, or those
that are not linked take the next of the claimed roles. -/
inductive Claims : List Status → List Role → List Status → Prop where
  | done : Claims [] [] []
  | kept {status : Status} {rest claimed : List Status} {picked : List Role} :
      Claims rest picked claimed → Claims (status :: rest) picked (status :: claimed)
  | taken {status : Status} {role : Role} {rest claimed : List Status} {picked : List Role} :
      status.isLinked = false → Claims rest picked claimed →
        Claims (status :: rest) (role :: picked) (status.linked role :: claimed)

theorem claims_nil (statuses : List Status) : Claims statuses [] statuses := by
  induction statuses with
  | nil => exact .done
  | cons status rest ih => exact .kept ih

/-- The free roles are the claimed ones, followed by those that are left. -/
theorem exists_claims (statuses : List Status) (free : List Role) :
    ∃ picked, free = picked ++ (claim statuses free).2 ∧
      Claims statuses picked (claim statuses free).1 := by
  induction statuses generalizing free with
  | nil => exact ⟨[], rfl, .done⟩
  | cons status rest ih =>
      cases free with
      | nil => exact ⟨[], rfl, claims_nil _⟩
      | cons role free =>
          unfold claim
          by_cases hlinked : status.isLinked = true
          · rw [if_pos hlinked]
            obtain ⟨picked, hfree, hclaims⟩ := ih (role :: free)
            exact ⟨picked, hfree, .kept hclaims⟩
          · rw [if_neg hlinked]
            obtain ⟨picked, hfree, hclaims⟩ := ih free
            exact ⟨role :: picked, congrArg (role :: ·) hfree,
              .taken (Bool.not_eq_true _ ▸ hlinked) hclaims⟩

section Claims

variable {before claimed : List Status} {picked : List Role}

theorem Claims.forall₂ (h : Claims before picked claimed) :
    List.Forall₂ (fun status after => after = status ∨
      status.isLinked = false ∧ ∃ role ∈ picked, after = status.linked role) before claimed := by
  induction h with
  | done => exact .nil
  | kept _ ih => exact .cons (.inl rfl) ih
  | taken hlinked _ ih =>
      refine .cons (.inr ⟨hlinked, _, List.mem_cons_self, rfl⟩) (ih.imp ?_)
      rintro status after (heq | ⟨hother, role, hrole, heq⟩)
      · exact .inl heq
      · exact .inr ⟨hother, role, List.mem_cons_of_mem _ hrole, heq⟩

/-- Every claimed role has a status that took it. -/
theorem Claims.exists_taker (h : Claims before picked claimed) {role : Role}
    (hrole : role ∈ picked) :
    ∃ status ∈ before, status.isLinked = false ∧ status.linked role ∈ claimed := by
  induction h with
  | done => cases hrole
  | kept _ ih =>
      obtain ⟨status, hmem, hlinked, htaken⟩ := ih hrole
      exact ⟨status, List.mem_cons_of_mem _ hmem, hlinked, List.mem_cons_of_mem _ htaken⟩
  | @taken status first rest claimed picked hlinked _ ih =>
      rcases List.mem_cons.mp hrole with rfl | hrest
      · exact ⟨status, List.mem_cons_self, hlinked, List.mem_cons_self⟩
      · obtain ⟨other, hmem, hother, htaken⟩ := ih hrest
        exact ⟨other, List.mem_cons_of_mem _ hmem, hother, List.mem_cons_of_mem _ htaken⟩

/-- If nobody acted before, those who act now do so on the roles they claimed. -/
theorem Claims.acting_sublist (h : Claims before picked claimed)
    (hbefore : ∀ status ∈ before, Integrations.acts status = false) :
    ((claimed.filter Integrations.acts).map Status.roleId).Sublist (picked.map Role.roleId) := by
  induction h with
  | done => exact .slnil
  | kept _ ih =>
      obtain ⟨hfirst, hothers⟩ := List.forall_mem_cons.mp hbefore
      rw [List.filter_cons_of_neg (by simp [hfirst])]
      exact ih hothers
  | @taken status role rest claimed picked _ _ ih =>
      have hrest := ih (List.forall_mem_cons.mp hbefore).2
      by_cases hacts : Integrations.acts (status.linked role) = true
      · rw [List.filter_cons_of_pos hacts]
        exact hrest.cons_cons role.roleId
      · rw [List.filter_cons_of_neg hacts]
        exact hrest.cons role.roleId

end Claims

/-! ## Placements -/

/-- What a cloud lists if it numbers its roles and dates the authorized ones. -/
structure Regular (remote : List Role) : Prop where
  distinct : (remote.map Role.roleId).Nodup
  named : ∀ role ∈ remote, role.roleId ≠ ""
  dated : ∀ role ∈ remote, role.isAuthorized = true ↔ role.arn ≠ ""

theorem regular_rolesOf {cloud : MemoryCloud} (hnumbered : cloud.Numbered) (hdated : cloud.Dated)
    (project : String) : Regular (cloud.rolesOf project) where
  distinct := hnumbered.nodup_rolesOf project
  named _ hrole := hnumbered.roleId_ne_empty hrole
  dated _ hrole := hdated.isAuthorized_iff hrole

/-- The statuses of the declared integrations, linked to roles with their identifiers. -/
def matched (desired : List Integration) (remote : List Role) : List Status :=
  (desired.map declare).map (linkExact (sortRoles remote))

/-- The statuses of the declared integrations once the free roles were claimed. -/
def placed (desired : List Integration) (remote : List Role) : List Status :=
  (claim (matched desired remote) ((sortRoles remote).filter fun role => role.arn = "")).1

/-- The free roles that nobody claimed. -/
def unclaimed (desired : List Integration) (remote : List Role) : List Role :=
  (claim (matched desired remote) ((sortRoles remote).filter fun role => role.arn = "")).2

/-- The roles that are to be removed. -/
def surplus (desired : List Integration) (remote : List Role) : List Role :=
  difference ((sortRoles remote).filter fun role => role.arn ≠ "") (placed desired remote) ++
    unclaimed desired remote

theorem statuses_eq (desired : List Integration) (remote : List Role) :
    statuses desired remote =
      placed desired remote ++ (surplus desired remote).map Status.removal := rfl

/-- Nothing among the roles has the identifier of an integration. -/
def Unknown (remote : List Role) (integration : Integration) : Prop :=
  identifier integration = "" ∨ ∀ role ∈ remote, identifier role ≠ identifier integration

/-- Where a declared integration ends up. -/
inductive Placement (remote : List Role) (integration : Integration) : Status → Prop where
  | exact {role : Role} : role ∈ remote → identifier integration ≠ "" →
      identifier role = identifier integration →
        Placement remote integration ((declare integration).linked role)
  | claimed {role : Role} : role ∈ remote → role.arn = "" → Unknown remote integration →
      Placement remote integration ((declare integration).linked role)
  | fresh : Unknown remote integration → Placement remote integration (declare integration)

theorem Placement.identifier_eq {remote : List Role} {integration : Integration} {status : Status}
    (h : Placement remote integration status) :
    identifier status = identifier integration := by
  cases h <;> rfl

theorem Placement.provider_eq {remote : List Role} {integration : Integration} {status : Status}
    (h : Placement remote integration status) : status.provider = integration.provider := by
  cases h <;> rfl

theorem Placement.arn_eq {remote : List Role} {integration : Integration} {status : Status}
    (h : Placement remote integration status) : status.arn = integration.arn := by
  cases h <;> rfl

/-- What a status keeps of the declared integration that it stands for, whatever role it
is linked to and whatever steps are made. -/
structure StandsFor (integration : Integration) (status : Status) : Prop where
  provider_eq : status.provider = integration.provider
  arn_eq : status.arn = integration.arn
  kept : status.phase.isRemoval = false

theorem standsFor_declare (integration : Integration) :
    StandsFor integration (declare integration) :=
  ⟨rfl, rfl, rfl⟩

theorem StandsFor.identifier_eq {integration : Integration} {status : Status}
    (h : StandsFor integration status) : identifier status = identifier integration := by
  rw [Status.identifier_eq, h.provider_eq, h.arn_eq]
  rfl

theorem StandsFor.linked {integration : Integration} {status : Status}
    (h : StandsFor integration status) (role : Role) :
    StandsFor integration (status.linked role) where
  provider_eq := h.provider_eq
  arn_eq := h.arn_eq
  kept := by
    unfold Status.linked
    cases role.isAuthorized <;> rfl

theorem StandsFor.move_ne_remove {integration : Integration} {status : Status}
    (h : StandsFor integration status) : Integrations.move status ≠ .remove :=
  fun hmove => Bool.false_ne_true (h.kept.symm.trans (Integrations.move_eq_remove_iff.mp hmove))

/-- Every declared integration has a status that stands for it, in the declared order. -/
theorem forall₂_standsFor (desired : List Integration) (remote : List Role) :
    List.Forall₂ StandsFor desired (placed desired remote) := by
  obtain ⟨picked, _, hclaims⟩ : ∃ picked, _ ∧ Claims (matched desired remote) picked
    (placed desired remote) := exists_claims _ _
  have hpairs := hclaims.forall₂
  unfold matched at hpairs
  rw [List.map_map, List.forall₂_map_left_iff] at hpairs
  refine hpairs.imp fun integration status hstatus => ?_
  have hmatched : StandsFor integration (linkExact (sortRoles remote) (declare integration)) := by
    rcases linkExact_cases (sortRoles remote) integration with ⟨_, role, _, _, heq⟩ | ⟨_, heq⟩
    · rw [heq]
      exact (standsFor_declare integration).linked role
    · rw [heq]
      exact standsFor_declare integration
  rcases hstatus with rfl | ⟨_, role, _, rfl⟩
  · exact hmatched
  · exact hmatched.linked role

section Places

variable {desired : List Integration} {remote : List Role}

theorem exists_standsFor_of_mem_placed {status : Status} (h : status ∈ placed desired remote) :
    ∃ integration ∈ desired, StandsFor integration status :=
  exists_left_of_forall₂ (forall₂_standsFor desired remote) h

/-- What is declared is not removed. -/
theorem move_ne_remove_of_mem_placed {status : Status} (h : status ∈ placed desired remote) :
    Integrations.move status ≠ .remove := by
  obtain ⟨_, _, hstands⟩ := exists_standsFor_of_mem_placed h
  exact hstands.move_ne_remove

/-- Before roles are claimed, an integration is linked for good, or nothing is known
of it. -/
theorem matched_cases (hnamed : ∀ role ∈ remote, role.roleId ≠ "") (integration : Integration) :
    (Placement remote integration (linkExact (sortRoles remote) (declare integration)) ∧
        (linkExact (sortRoles remote) (declare integration)).isLinked = true) ∨
      (linkExact (sortRoles remote) (declare integration) = declare integration ∧
        Unknown remote integration) := by
  rcases linkExact_cases (sortRoles remote) integration with
    ⟨hid, role, hmem, hsame, heq⟩ | ⟨hunknown, heq⟩
  · have hrole : role ∈ remote := mem_sortRoles_iff.mp hmem
    have harn : integration.arn ≠ "" := Integration.identifier_ne_empty_iff.mp hid
    rw [heq]
    refine .inl ⟨.exact hrole hid hsame, ?_⟩
    simp [Status.isLinked, Status.linked, declare, Status.new, harn, hnamed role hrole]
  · refine .inr ⟨heq, hunknown.imp_right fun hne role hrole => ?_⟩
    exact hne role (mem_sortRoles_iff.mpr hrole)

/-- An exactly linked role is authorized already, so its status rests. -/
theorem acts_eq_false_of_mem_matched (hregular : Regular remote) :
    ∀ status ∈ matched desired remote, Integrations.acts status = false := by
  intro status hstatus
  obtain ⟨start, hstart, rfl⟩ := List.mem_map.mp hstatus
  obtain ⟨integration, _, rfl⟩ := List.mem_map.mp hstart
  rcases linkExact_cases (sortRoles remote) integration with
    ⟨hid, role, hmem, hsame, heq⟩ | ⟨_, heq⟩
  · have hvisible : role.arn ≠ "" := Role.identifier_ne_empty_iff.mp (hsame ▸ hid)
    have hauthorized : role.isAuthorized = true :=
      (hregular.dated role (mem_sortRoles_iff.mp hmem)).mpr hvisible
    simp [heq, Integrations.acts, Integrations.move_linked, hauthorized]
  · rw [heq]
    rfl

/-- The claimed roles, and what claiming made of the matched statuses. -/
theorem exists_picked (desired : List Integration) (remote : List Role) :
    ∃ picked, ((sortRoles remote).filter fun role => role.arn = "") =
        picked ++ unclaimed desired remote ∧
      Claims (matched desired remote) picked (placed desired remote) :=
  exists_claims _ _

theorem mem_free_iff {role : Role} :
    role ∈ ((sortRoles remote).filter fun role => role.arn = "") ↔
      role ∈ remote ∧ role.arn = "" := by
  simp

/-- Every declared integration is placed, in the declared order. -/
theorem forall₂_placement (hnamed : ∀ role ∈ remote, role.roleId ≠ "") :
    List.Forall₂ (Placement remote) desired (placed desired remote) := by
  obtain ⟨picked, hfree, hclaims⟩ := exists_picked desired remote
  have hpairs := hclaims.forall₂
  unfold matched at hpairs
  rw [List.map_map, List.forall₂_map_left_iff] at hpairs
  refine hpairs.imp ?_
  intro integration status hstatus
  rcases matched_cases hnamed integration with ⟨hplaced, hlinked⟩ | ⟨heq, hunknown⟩
  · -- A linked status claims nothing.
    rcases hstatus with rfl | ⟨hnot, _⟩
    · exact hplaced
    · exact absurd (hlinked.symm.trans hnot) (by decide)
  · rw [Function.comp_apply, heq] at hstatus
    rcases hstatus with rfl | ⟨_, role, hpicked, rfl⟩
    · exact .fresh hunknown
    · obtain ⟨hrole, harn⟩ := mem_free_iff.mp (hfree ▸ List.mem_append_left _ hpicked)
      exact .claimed hrole harn hunknown

theorem mem_unclaimed {role : Role} (h : role ∈ unclaimed desired remote) :
    role ∈ remote ∧ role.arn = "" := by
  obtain ⟨picked, hfree, _⟩ := exists_picked desired remote
  exact mem_free_iff.mp (hfree ▸ List.mem_append_right _ h)

/-- The surplus roles are those without an `arn` that nobody claimed and those with
one that nobody declared. -/
theorem mem_surplus {role : Role}
    (h : role ∈ surplus desired remote) :
    role ∈ remote ∧ (role.arn = "" ∨
      ∀ integration ∈ desired, identifier integration ≠ identifier role) := by
  rcases List.mem_append.mp h with hvisible | hleft
  · obtain ⟨hmem, hunknown⟩ := mem_difference_iff.mp hvisible
    have hrole : role ∈ remote := mem_sortRoles_iff.mp (List.mem_of_mem_filter hmem)
    refine ⟨hrole, ?_⟩
    rcases hunknown with hempty | hne
    · exact .inl (sharedIdentifier_eq_empty_iff.mp hempty)
    · refine .inr fun integration hintegration => ?_
      obtain ⟨status, hstatus, hstands⟩ :=
        exists_right_of_forall₂ (forall₂_standsFor desired remote) hintegration
      exact hstands.identifier_eq ▸ hne status hstatus
  · obtain ⟨hrole, harn⟩ := mem_unclaimed hleft
    exact ⟨hrole, .inl harn⟩

/-- Every listed role is one that was declared, or was claimed, or is surplus. -/
theorem cases_of_mem_remote (hnamed : ∀ role ∈ remote, role.roleId ≠ "") {role : Role}
    (hrole : role ∈ remote) :
    (role.arn ≠ "" ∧ ∃ integration ∈ desired, identifier integration = identifier role) ∨
      (role.arn = "" ∧ ∃ integration ∈ desired,
        (declare integration).linked role ∈ placed desired remote) ∨
      role ∈ surplus desired remote := by
  obtain ⟨picked, hfree, hclaims⟩ := exists_picked desired remote
  by_cases harn : role.arn = ""
  · have hmem := mem_free_iff.mpr ⟨hrole, harn⟩
    rw [hfree] at hmem
    rcases List.mem_append.mp hmem with hpicked | hleft
    · obtain ⟨status, hstatus, hlinked, htaken⟩ := hclaims.exists_taker hpicked
      obtain ⟨start, hstart, rfl⟩ := List.mem_map.mp hstatus
      obtain ⟨integration, hintegration, rfl⟩ := List.mem_map.mp hstart
      refine .inr (.inl ⟨harn, integration, hintegration, ?_⟩)
      rcases matched_cases hnamed integration with ⟨_, hyes⟩ | ⟨heq, _⟩
      · exact absurd (hyes.symm.trans hlinked) (by decide)
      · rwa [heq] at htaken
    · exact .inr (.inr (List.mem_append_right _ hleft))
  · have hvisible : role ∈ (sortRoles remote).filter fun role => role.arn ≠ "" := by
      simp [hrole, harn]
    by_cases hknown : ∃ status ∈ placed desired remote, identifier status = identifier role
    · obtain ⟨status, hstatus, hsame⟩ := hknown
      obtain ⟨integration, hintegration, hstands⟩ := exists_standsFor_of_mem_placed hstatus
      exact .inl ⟨harn, integration, hintegration, hstands.identifier_eq.symm.trans hsame⟩
    · refine .inr (.inr (List.mem_append_left _ (mem_difference_iff.mpr ⟨hvisible, .inr ?_⟩)))
      exact fun status hstatus hsame => hknown ⟨status, hstatus, hsame⟩

theorem mem_statuses_cases {status : Status} (h : status ∈ statuses desired remote) :
    status ∈ placed desired remote ∨
      ∃ role ∈ surplus desired remote, status = Status.removal role := by
  rw [statuses_eq] at h
  rcases List.mem_append.mp h with hplaced | hremoval
  · exact .inl hplaced
  · obtain ⟨role, hrole, rfl⟩ := List.mem_map.mp hremoval
    exact .inr ⟨role, hrole, rfl⟩

theorem mem_statuses_of_mem_placed {status : Status} (h : status ∈ placed desired remote) :
    status ∈ statuses desired remote := by
  rw [statuses_eq]
  exact List.mem_append_left _ h

theorem removal_mem_statuses {role : Role} (h : role ∈ surplus desired remote) :
    Status.removal role ∈ statuses desired remote := by
  rw [statuses_eq]
  exact List.mem_append_right _ (List.mem_map_of_mem h)

theorem roleIds_removal (roles : List Role) :
    (roles.map Status.removal).map Status.roleId = roles.map Role.roleId := by
  rw [List.map_map]
  rfl

/-- The declared statuses are those that are not to be removed. -/
theorem filter_statuses (desired : List Integration) (remote : List Role) :
    ((statuses desired remote).filter fun status => Integrations.move status ≠ .remove) =
      placed desired remote := by
  have hplaced : ((placed desired remote).filter fun status =>
      Integrations.move status ≠ .remove) = placed desired remote := by
    rw [List.filter_eq_self]
    intro status hstatus
    simpa using move_ne_remove_of_mem_placed hstatus
  have hremoved : (((surplus desired remote).map Status.removal).filter fun status =>
      Integrations.move status ≠ .remove) = [] := by
    rw [List.filter_eq_nil_iff]
    intro status hstatus
    obtain ⟨role, _, rfl⟩ := List.mem_map.mp hstatus
    simp
  rw [statuses_eq, List.filter_append, hplaced, hremoved, List.append_nil]

/-- Nobody acts on a role that carries a declared identifier. -/
theorem acting_roleId_ne (hregular : Regular remote) {role : Role} (hrole : role ∈ remote)
    (harn : role.arn ≠ "")
    (hdeclared : ∃ integration ∈ desired, identifier integration = identifier role) :
    ∀ status ∈ statuses desired remote, Integrations.acts status = true →
      status.roleId ≠ role.roleId := by
  have hsame {other : Role} (hother : other ∈ remote) (hid : other.roleId = role.roleId) :
      other = role := List.inj_on_of_nodup_map hregular.distinct hother hrole hid
  intro status hstatus hacts hid
  rcases mem_statuses_cases hstatus with hplaced | ⟨other, hother, rfl⟩
  · obtain ⟨integration, _, hplacement⟩ :=
      exists_left_of_forall₂ (forall₂_placement hregular.named) hplaced
    cases hplacement with
    | @exact other hmem hlinked hmatch =>
        -- An exactly linked role is authorized already, so its status rests.
        have hvisible : other.arn ≠ "" := Role.identifier_ne_empty_iff.mp (hmatch ▸ hlinked)
        have hauthorized := (hregular.dated other hmem).mpr hvisible
        simp [Integrations.acts, Integrations.move_linked, hauthorized] at hacts
    | @claimed other hmem hfree _ =>
        obtain rfl := hsame hmem hid
        exact harn hfree
    | fresh => simp [Integrations.acts] at hacts
  · obtain ⟨hmem, hreason⟩ := mem_surplus hother
    obtain rfl := hsame hmem hid
    obtain ⟨integration, hintegration, hmatch⟩ := hdeclared
    rcases hreason with hempty | hne
    · exact harn hempty
    · exact hne integration hintegration hmatch

/-- The claimed roles, the visible ones and those that are left free are all roles. -/
theorem parts_perm {picked : List Role}
    (hfree : ((sortRoles remote).filter fun role => role.arn = "") =
      picked ++ unclaimed desired remote) :
    List.Perm (picked ++ (((sortRoles remote).filter fun role => role.arn ≠ "") ++
      unclaimed desired remote)) remote := by
  have hvisible : ((sortRoles remote).filter fun role => role.arn ≠ "") =
      (sortRoles remote).filter fun role => !decide (role.arn = "") := by
    simp
  calc
    List.Perm
        (picked ++ (((sortRoles remote).filter fun role => role.arn ≠ "") ++
          unclaimed desired remote))
        (((sortRoles remote).filter fun role => role.arn ≠ "") ++
          (picked ++ unclaimed desired remote)) :=
      List.perm_append_comm_assoc _ _ _
    List.Perm _
        (((sortRoles remote).filter fun role => role.arn = "") ++
          (sortRoles remote).filter fun role => !decide (role.arn = "")) := by
      rw [← hfree, hvisible]
      exact List.perm_append_comm
    List.Perm _ (sortRoles remote) := List.filter_append_perm _ _
    List.Perm _ remote := sortRoles_perm remote

/-- The surplus roles are among the visible ones and those that are left free. -/
theorem surplus_sublist (desired : List Integration) (remote : List Role) :
    (surplus desired remote).Sublist
      (((sortRoles remote).filter fun role => role.arn ≠ "") ++ unclaimed desired remote) :=
  List.Sublist.append List.filter_sublist (List.Sublist.refl _)

/-- No two statuses act on the same role. -/
theorem nodup_acting_roleIds (hregular : Regular remote) :
    (((statuses desired remote).filter Integrations.acts).map Status.roleId).Nodup := by
  obtain ⟨picked, hfree, hclaims⟩ := exists_picked desired remote
  have hplaced := hclaims.acting_sublist (acts_eq_false_of_mem_matched hregular)
  have hremoved : ((surplus desired remote).map Status.removal).filter Integrations.acts =
      (surplus desired remote).map Status.removal := by
    rw [List.filter_eq_self]
    intro status hstatus
    obtain ⟨role, _, rfl⟩ := List.mem_map.mp hstatus
    rfl
  -- The roles that statuses act on are claimed or surplus, and these are apart.
  have hsublist : (((statuses desired remote).filter Integrations.acts).map Status.roleId).Sublist
      ((picked ++ (((sortRoles remote).filter fun role => role.arn ≠ "") ++
        unclaimed desired remote)).map Role.roleId) := by
    rw [statuses_eq, List.filter_append, List.map_append, hremoved, roleIds_removal,
      List.map_append]
    exact hplaced.append ((surplus_sublist desired remote).map _)
  exact (((parts_perm hfree).map Role.roleId).nodup_iff.mpr hregular.distinct).sublist hsublist

end Places

end Linking

end CloudSteward
