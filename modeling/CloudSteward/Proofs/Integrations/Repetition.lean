import CloudSteward.Proofs.Integrations.Conservation
import CloudSteward.Proofs.Integrations.Rest

/-!
# What the pass behind a fine one reports

A pass links in two ways.  An exact link is to the role with the declared identifier whose id
comes last (`Latest`), and several entries may be linked to one role.  A claim gives each
entry a role of its own, in the order of the role ids.  When the first pass is over, all of
its roles have identifiers, and so the second one has exact links only.  Do they lead to the
roles that were claimed?

Follow a declared identifier through the first pass:

* it was listed: then the roles with it are those of before (`mem_before_of_known`), and the
  last of them is still the last;
* it was not: then the roles with it are those that its entries claimed
  (`exists_shown_of_unlisted`), and the last entry has claimed the last of them
  (`roleId_lt_of_acts`).

So every entry is led to what the last entry with its identifier was given
(`latest_of_shown`), which is what it was given itself unless its identifier is new and
declared again behind it.  `statuses_repeat_iff` says this of two passes, and
`not_forall_statuses_repeat` runs into the exception.
-/

namespace CloudSteward

namespace Linking

variable {desired : List Integration} {remote : List Role} {id : String} {role first second : Role}

/-! ## The role that an exact link is to -/

/-- Of the roles with an identifier, the one whose id comes last. -/
structure Latest (remote : List Role) (id : String) (role : Role) : Prop where
  mem : role ∈ remote
  identifier_eq : identifier role = id
  roleId_le : ∀ other ∈ remote, identifier other = id → other.roleId ≤ role.roleId

theorem Latest.unique (hdistinct : (remote.map Role.roleId).Nodup)
    (hfirst : Latest remote id first) (hsecond : Latest remote id second) : first = second :=
  List.inj_on_of_nodup_map hdistinct hfirst.mem hsecond.mem
    (le_antisymm (hsecond.roleId_le first hfirst.mem hfirst.identifier_eq)
      (hfirst.roleId_le second hsecond.mem hsecond.identifier_eq))

theorem latest_of_roleFor? (h : roleFor? (sortRoles remote) id = some role) :
    Latest remote id role := by
  obtain ⟨hmem, hid⟩ := roleFor?_eq_some h
  refine ⟨mem_sortRoles_iff.mp hmem, hid, fun other hother hsame => ?_⟩
  have hlisted : other ∈ (sortRoles remote).filter fun role => identifier role = id :=
    List.mem_filter.mpr ⟨mem_sortRoles_iff.mpr hother, decide_eq_true hsame⟩
  obtain ⟨earlier, hsplit⟩ := List.getLast?_eq_some_iff.mp h
  have hordered := (pairwise_sortRoles remote).filter fun role => identifier role = id
  rw [hsplit] at hordered hlisted
  rcases List.mem_append.mp hlisted with hbefore | hlast
  · exact (List.pairwise_append.mp hordered).2.2 other hbefore role (List.mem_singleton_self role)
  · exact (List.mem_singleton.mp hlast) ▸ le_refl _

/-- An exact link is to the role whose id comes last. -/
theorem linkExact_of_latest (hdistinct : (remote.map Role.roleId).Nodup)
    {integration : Integration} (hid : identifier integration ≠ "")
    (h : Latest remote (identifier integration) role) :
    linkExact (sortRoles remote) (declare integration) = (declare integration).linked role := by
  have hstatus : identifier (declare integration) = identifier integration := rfl
  unfold linkExact
  rw [hstatus, if_neg hid]
  cases hrole : roleFor? (sortRoles remote) (identifier integration) with
  | none =>
      exact absurd h.identifier_eq
        (ne_of_roleFor?_eq_none hrole role (mem_sortRoles_iff.mpr h.mem))
  | some other => rw [(latest_of_roleFor? hrole).unique hdistinct h]

/-- A known integration is linked to the role whose id comes last. -/
theorem exists_latest_of_known {integration : Integration}
    (hknown : knownAmong integration remote = true) :
    ∃ role, Latest remote (identifier integration) role ∧
      linkExact (sortRoles remote) (declare integration) = (declare integration).linked role := by
  obtain ⟨hid, other, hother, hsame⟩ := knownAmong_eq_true_iff.mp hknown
  have hstatus : identifier (declare integration) = identifier integration := rfl
  unfold linkExact
  rw [hstatus, if_neg hid]
  cases hrole : roleFor? (sortRoles remote) (identifier integration) with
  | none => exact absurd hsame (ne_of_roleFor?_eq_none hrole other (mem_sortRoles_iff.mpr hother))
  | some role => exact ⟨role, latest_of_roleFor? hrole, rfl⟩

theorem getElem?_matched_of_latest (hdistinct : (remote.map Role.roleId).Nodup) {index : Nat}
    {integration : Integration} (hdesired : desired[index]? = some integration)
    (hid : identifier integration ≠ "") (h : Latest remote (identifier integration) role) :
    (matched desired remote)[index]? = some ((declare integration).linked role) := by
  unfold matched
  rw [List.getElem?_map, List.getElem?_map, hdesired, Option.map_some, Option.map_some,
    linkExact_of_latest hdistinct hid h]

/-- Entries with the same identifier, of which there is a role, are linked to the same one. -/
theorem roleId_eq_of_matched (hdistinct : (remote.map Role.roleId).Nodup) {early late : Nat}
    {one two : Integration} {before behind : Status} (hone : desired[early]? = some one)
    (htwo : desired[late]? = some two) (hsame : identifier one = identifier two)
    (hknown : knownAmong one remote = true)
    (hbefore : (matched desired remote)[early]? = some before)
    (hbehind : (matched desired remote)[late]? = some behind) :
    before.roleId = behind.roleId := by
  obtain ⟨hid, _⟩ := knownAmong_eq_true_iff.mp hknown
  obtain ⟨role, hlatest, _⟩ := exists_latest_of_known hknown
  rw [getElem?_matched_of_latest hdistinct hone hid hlatest] at hbefore
  rw [getElem?_matched_of_latest hdistinct htwo (hsame ▸ hid) (hsame ▸ hlatest)] at hbehind
  rw [← Option.some.inj hbefore, ← Option.some.inj hbehind]
  rfl

/-- No identifier that is not listed is declared twice. -/
theorem nodup_difference_iff :
    ((difference desired remote).map identifier).Nodup ↔
      ∀ (early late : Nat) (first second : Integration), early < late →
        desired[early]? = some first → desired[late]? = some second →
        Unknown remote first → Unknown remote second → identifier first ≠ identifier second := by
  unfold difference List.Nodup
  rw [List.pairwise_map, List.pairwise_filter, List.pairwise_iff_getElem]
  simp only [Bool.not_eq_true', knownAmong_eq_false_iff]
  constructor
  · rintro hpairs early late first second hlt hearly hlate
    obtain ⟨hearly_lt, rfl⟩ := List.getElem?_eq_some_iff.mp hearly
    obtain ⟨hlate_lt, rfl⟩ := List.getElem?_eq_some_iff.mp hlate
    exact hpairs early late hearly_lt hlate_lt hlt
  · intro hpairs early late hearly hlate hlt
    exact hpairs early late _ _ hlt (List.getElem?_eq_getElem hearly)
      (List.getElem?_eq_getElem hlate)

/-! ## Claims are in order -/

/-- The statuses that act on the roles they claimed do so in the order of the role ids. -/
theorem pairwise_acting_placed (hregular : Regular remote) :
    (((placed desired remote).filter Integrations.acts).map Status.roleId).Pairwise (· < ·) := by
  obtain ⟨picked, hfree, hclaims⟩ := exists_picked desired remote
  refine List.Pairwise.sublist
    (hclaims.acting_sublist (acts_eq_false_of_mem_matched hregular)) ?_
  have hsorted : (picked ++ unclaimed desired remote).Sublist (sortRoles remote) :=
    hfree ▸ List.filter_sublist
  have hpicked : picked.Sublist (sortRoles remote) :=
    (List.sublist_append_left picked _).trans hsorted
  have hordered : (picked.map Role.roleId).Pairwise (· ≤ ·) :=
    List.pairwise_map.mpr ((pairwise_sortRoles remote).sublist hpicked)
  have hdistinct : (picked.map Role.roleId).Nodup :=
    (((sortRoles_perm remote).map Role.roleId).nodup_iff.mpr hregular.distinct).sublist
      (hpicked.map Role.roleId)
  exact (hordered.and hdistinct).imp fun h => lt_of_le_of_ne h.1 h.2

/-- A status that acts on a role has an earlier one than those behind it. -/
theorem roleId_lt_of_acts (hregular : Regular remote) {early late : Nat} {before after : Status}
    (hearly : (placed desired remote)[early]? = some before)
    (hlate : (placed desired remote)[late]? = some after) (hlt : early < late)
    (hbefore : Integrations.acts before = true) (hafter : Integrations.acts after = true) :
    before.roleId < after.roleId := by
  have hordered : (placed desired remote).Pairwise fun first second =>
      Integrations.acts first = true → Integrations.acts second = true →
        first.roleId < second.roleId :=
    List.pairwise_filter.mp (List.pairwise_map.mp (pairwise_acting_placed hregular))
  obtain ⟨hearly_lt, rfl⟩ := List.getElem?_eq_some_iff.mp hearly
  obtain ⟨hlate_lt, rfl⟩ := List.getElem?_eq_some_iff.mp hlate
  exact List.pairwise_iff_getElem.mp hordered early late hearly_lt hlate_lt hlt hbefore hafter

end Linking

namespace Integrations

open Linking MemoryCloud

/-! ## What becomes of the statuses -/

section Run

variable {cloud after : MemoryCloud} {project : String} {status : Status}
  {output : Option Status} {statuses outputs : List Status}

/-- What a status has become when a fine run is over. -/
inductive Became (cloud after : MemoryCloud) (project : String) (status : Status) :
    Status → Prop where
  | rested : move status = .rest → Became cloud after project status status
  | authorized {role : Role} : move status = .authorize → role ∈ cloud.rolesOf project →
      role.roleId = status.roleId → role.provider = status.provider →
      role.granted status.arn ∈ after.rolesOf project →
        Became cloud after project status (status.linked (role.granted status.arn))

theorem StepEffect.became (h : StepEffect cloud project status output after)
    (hnumbered : cloud.Numbered) (hphase : ∀ other ∈ output, other.phase = .authorized) :
    (move status = .remove ∧ output = none) ∨
      move status ≠ .remove ∧ ∃ other, output = some other ∧
        Became cloud after project status other := by
  cases h with
  | rested hmove _ => exact .inr ⟨by simp [hmove], status, rfl, .rested hmove⟩
  | failed phase error hne _ => exact absurd (hphase _ rfl) hne
  | created hmove hroles =>
      exact absurd hmove ((StepEffect.created hmove hroles).move_ne_create hphase)
  | authorized old hmove hmem hid hprovider hroles =>
      have hgranted := granted_mem_rolesOf hnumbered hmem hid hprovider hroles
      exact .inr ⟨by simp [hmove], _, rfl,
        .authorized hmove (mem_rolesOf_iff.mpr hmem) hid hprovider hgranted⟩
  | removed old hmove _ _ _ _ => exact .inl ⟨hmove, rfl⟩

/-- A fine run makes of every status that is left what one step made of it, as no other
step acts on its role. -/
theorem forall₂_became_of_execution
    (h : cloud.Execution (stepAll project statuses) outputs after) (hnumbered : cloud.Numbered)
    (hphases : ∀ output ∈ outputs, output.phase = .authorized)
    (hdistinct : ((statuses.filter acts).map Status.roleId).Nodup) :
    List.Forall₂ (Became cloud after project)
      (statuses.filter fun status => move status ≠ .remove) outputs := by
  induction statuses generalizing cloud outputs with
  | nil =>
      rw [outputs_eq_nil h]
      exact .nil
  | cons status rest ih =>
      obtain ⟨output, middle, others, heffect, hstep, hrest, rfl⟩ := execution_cons h
      have hothers : ∀ other ∈ others, other.phase = .authorized :=
        fun other hother => hphases other (List.mem_append_right _ hother)
      have houtput : ∀ other ∈ output, other.phase = .authorized :=
        fun other hother => hphases other (List.mem_append_left _ (Option.mem_toList.mpr hother))
      have hapart (hacts : acts status = true) :
          ∀ other ∈ rest, acts other = true → other.roleId ≠ status.roleId :=
        roleId_ne_of_nodup_acting_cons hdistinct hacts
      have htail : List.Forall₂ (Became cloud after project)
          (rest.filter fun status => move status ≠ .remove) others := by
        refine (forall₂_mem (ih hrest (hnumbered.execution hstep) hothers
          (nodup_of_nodup_acting_cons hdistinct))).imp ?_
        rintro other last ⟨hother, _, hbecame⟩
        cases hbecame with
        | rested hmove => exact .rested hmove
        | @authorized role hmove hrole hid hprovider hgranted =>
            have hacts : acts other = true := by simp [acts, hmove]
            -- The step before found the role as it is, or it would act on the same one.
            rcases heffect.mem_before_or hrole with
              hbefore | ⟨hcreate, _⟩ | ⟨hauthorize, old, _, hold, _, rfl⟩
            · exact .authorized hmove hbefore hid hprovider hgranted
            · exact absurd hcreate (heffect.move_ne_create houtput)
            · exact absurd (hid.symm.trans hold) (hapart (by simp [acts, hauthorize]) other
                (List.mem_of_mem_filter hother) hacts)
      rcases heffect.became hnumbered houtput with ⟨hmove, rfl⟩ | ⟨hmove, other, rfl, hbecame⟩
      · rw [List.filter_cons_of_neg (by simp [hmove])]
        exact htail
      · rw [List.filter_cons_of_pos (by simp [hmove])]
        refine .cons ?_ htail
        cases hbecame with
        | rested hmove => exact .rested hmove
        | authorized hmove hrole hid hprovider hgranted =>
            refine .authorized hmove hrole hid hprovider (mem_of_execution hrest hgranted ?_)
            exact fun other hother hacts heq =>
              hapart (by simp [acts, hmove]) other hother hacts (heq.trans hid)

end Run

/-! ## What a fine pass reports -/

/-- A status that shows a role, in full, for an integration with its identifier. -/
structure Shown (roles : List Role) (integration : Integration) (role : Role)
    (status : Status) : Prop where
  mem : role ∈ roles
  identifier_eq : identifier role = identifier integration
  status_eq : status = (declare integration).linked role

theorem Shown.roleId_eq {roles : List Role} {integration : Integration} {role : Role}
    {status : Status} (h : Shown roles integration role status) : status.roleId = role.roleId := by
  rw [h.status_eq]
  rfl

/-- The reply to an authorization replaces all that was known of the role. -/
theorem linked_linked_granted (status : Status) (role : Role) (arn : String) :
    (status.linked role).linked (role.granted arn) = status.linked (role.granted arn) := by
  have husages : (role.granted arn).usages = role.usages := rfl
  unfold Status.linked
  rw [husages]
  cases role.usages with
  | nil => rfl
  | cons => rfl

section Sync

variable {cloud after : MemoryCloud} {project : String} {desired : List Integration}
  {outputs : List Status} (hnumbered : cloud.Numbered)
  (hregular : Regular (cloud.rolesOf project))
  (hrun : cloud.Execution (sync project desired (cloud.rolesOf project)) outputs after)
  (hphases : ∀ output ∈ outputs, output.phase = .authorized)

include hnumbered hregular hrun hphases

theorem forall₂_became : List.Forall₂ (Became cloud after project)
    (placed desired (cloud.rolesOf project)) outputs := by
  rw [← filter_statuses]
  exact forall₂_became_of_execution hrun hnumbered hphases (nodup_acting_roleIds hregular)

omit hnumbered in
/-- What is reported of a placed integration shows the role that it was linked to; if that
was claimed, the pass has acted on it. -/
theorem exists_shown_of_placement {integration : Integration} (hdesired : integration ∈ desired)
    {status output : Status} (hplacement : Placement (cloud.rolesOf project) integration status)
    (hbecame : Became cloud after project status output) (houtput : output ∈ outputs) :
    ∃ role, Shown (after.rolesOf project) integration role output ∧
      role.roleId = status.roleId ∧
      (Unknown (cloud.rolesOf project) integration → acts status = true) := by
  cases hplacement with
  | @exact role hrole hid hmatch =>
      have hvisible : role.arn ≠ "" := Role.identifier_ne_empty_iff.mp (hmatch ▸ hid)
      have hauthorized : role.isAuthorized = true := (hregular.dated role hrole).mpr hvisible
      have hkept : role ∈ after.rolesOf project :=
        mem_of_execution hrun hrole
          (acting_roleId_ne hregular hrole hvisible ⟨integration, hdesired, hmatch.symm⟩)
      cases hbecame with
      | rested _ =>
          refine ⟨role, ⟨hkept, hmatch, rfl⟩, rfl, ?_⟩
          rintro (hempty | hunknown)
          · exact absurd hempty hid
          · exact absurd hmatch (hunknown role hrole)
      | authorized hmove =>
          rw [move_linked, if_pos (.inl hauthorized)] at hmove
          cases hmove
  | @claimed role hrole hfree _ =>
      cases hbecame with
      | rested _ =>
          have hunauthorized : role.isAuthorized ≠ true :=
            fun hauthorized => (hregular.dated role hrole).mp hauthorized hfree
          have hphase := hphases _ houtput
          simp [Status.linked, hunauthorized] at hphase
      | @authorized old hmove hold hid hprovider hgranted =>
          obtain rfl : old = role := List.inj_on_of_nodup_map hregular.distinct hold hrole hid
          refine ⟨old.granted integration.arn, ⟨hgranted, ?_, ?_⟩, rfl, ?_⟩
          · rw [Role.identifier_eq]
            exact congrArg (sharedIdentifier · integration.arn) hprovider
          · exact linked_linked_granted _ old integration.arn
          · exact fun _ => by simp [acts, hmove]
  | fresh _ =>
      cases hbecame with
      | rested hmove => cases hmove
      | authorized hmove => cases hmove

/-- The report has an entry for every declared integration, which shows the role that was
linked to it. -/
theorem exists_shown {index : Nat} {integration : Integration}
    (hdesired : desired[index]? = some integration) :
    ∃ status output role, (placed desired (cloud.rolesOf project))[index]? = some status ∧
      outputs[index]? = some output ∧ Shown (after.rolesOf project) integration role output ∧
      role.roleId = status.roleId ∧
      (Unknown (cloud.rolesOf project) integration → acts status = true) := by
  obtain ⟨status, hstatus, hplacement⟩ :=
    exists_getElem?_of_forall₂ (forall₂_placement hregular.named) hdesired
  obtain ⟨output, houtput, hbecame⟩ := exists_getElem?_of_forall₂
    (forall₂_became hnumbered hregular hrun hphases) hstatus
  obtain ⟨role, hshown, hid, hacts⟩ := exists_shown_of_placement hregular hrun hphases
    (List.mem_of_getElem? hdesired) hplacement hbecame (List.mem_of_getElem? houtput)
  exact ⟨status, output, role, hstatus, houtput, hshown, hid, hacts⟩

omit hnumbered hphases in
/-- Of a declared identifier that was listed before, there are no other roles than before. -/
theorem mem_before_of_known {integration : Integration} {role other : Role}
    (hid : identifier integration ≠ "") (hother : other ∈ cloud.rolesOf project)
    (hknown : identifier other = identifier integration) (hrole : role ∈ after.rolesOf project)
    (hsame : identifier role = identifier integration) : role ∈ cloud.rolesOf project := by
  rcases mem_before_or_of_execution hrun hrole with
    hbefore | ⟨_, harn⟩ | ⟨status, hstatus, hmove, hprovider, harn⟩
  · exact hbefore
  · exact absurd harn (Role.identifier_ne_empty_iff.mp (hsame ▸ hid))
  · have hstatus_id : identifier status = identifier integration := by
      rw [← hsame, Role.identifier_eq, hprovider, harn]
      rfl
    -- Only a status of which nothing was known is authorized.
    have hunknown {declared : Integration} (hmatch : identifier declared = identifier integration)
        (hnone : Unknown (cloud.rolesOf project) declared) : False := by
      rcases hnone with hempty | hne
      · exact hid (hmatch ▸ hempty)
      · exact hne other hother (hknown.trans hmatch.symm)
    rcases mem_statuses_cases hstatus with hplaced | ⟨surplus, _, rfl⟩
    · obtain ⟨declared, _, hplacement⟩ :=
        exists_left_of_forall₂ (forall₂_placement hregular.named) hplaced
      have hmatch : identifier declared = identifier integration :=
        hplacement.identifier_eq.symm.trans hstatus_id
      cases hplacement with
      | @exact linked hlinked hlinked_id hlinked_match =>
          have hvisible : linked.arn ≠ "" :=
            Role.identifier_ne_empty_iff.mp (hlinked_match ▸ hlinked_id)
          rw [move_linked, if_pos (.inl ((hregular.dated linked hlinked).mpr hvisible))] at hmove
          cases hmove
      | claimed _ _ hnone => exact (hunknown hmatch hnone).elim
      | fresh hnone => exact (hunknown hmatch hnone).elim
    · cases hmove

/-- A role whose identifier was not listed before is shown by some entry of the report. -/
theorem exists_shown_of_unlisted {role : Role} (hrole : role ∈ after.rolesOf project)
    (hunlisted : ∀ other ∈ cloud.rolesOf project, identifier other ≠ identifier role) :
    ∃ (index : Nat) (integration : Integration) (status output : Status),
      desired[index]? = some integration ∧
      (placed desired (cloud.rolesOf project))[index]? = some status ∧
      outputs[index]? = some output ∧ Shown (after.rolesOf project) integration role output ∧
      role.roleId = status.roleId := by
  have hsettled := settled_of_sync hnumbered hregular hrun hphases
  have hafter : after.Numbered := hnumbered.execution hrun
  obtain ⟨old, hold, hid⟩ := exists_roleId_of_execution hrun
    (fun status hstatus => (hsettled status hstatus).move_ne_create) hrole
  rcases cases_of_mem_remote hregular.named hold with
    ⟨hvisible, hdeclared⟩ | ⟨_, claimer, _, hclaimed⟩ | hsurplus
  · -- A role that was declared all along is still there, and so it is this one.
    have hkept : old ∈ after.rolesOf project :=
      mem_of_execution hrun hold (acting_roleId_ne hregular hold hvisible hdeclared)
    obtain rfl : old = role := hafter.role_eq hkept hrole hid
    exact absurd rfl (hunlisted old hold)
  · obtain ⟨index, hindex⟩ := List.mem_iff_getElem?.mp hclaimed
    have hbound : index < desired.length := by
      rw [(forall₂_placement hregular.named).length_eq]
      exact (List.getElem?_eq_some_iff.mp hindex).1
    have hdesired : desired[index]? = some desired[index] := List.getElem?_eq_getElem hbound
    obtain ⟨status, output, shown, hstatus, houtput, hshown, hshown_id, _⟩ :=
      exists_shown hnumbered hregular hrun hphases hdesired
    obtain rfl := Option.some.inj (hindex.symm.trans hstatus)
    obtain rfl : shown = role := hafter.role_eq hshown.mem hrole (hshown_id.trans hid)
    exact ⟨index, _, _, output, hdesired, hstatus, houtput, hshown, hshown_id⟩
  · have hgone := hsettled _ (removal_mem_statuses hsurplus)
    rw [Settled, move_removal] at hgone
    exact absurd hid.symm (hgone role hrole)

/-! ## The last entry with an identifier -/

/-- The entry of a known identifier, and the last one of any other, shows the role that an
exact link is to from now on. -/
theorem latest_of_shown {index : Nat} {integration : Integration} {output : Status} {role : Role}
    (hnamed : identifier integration ≠ "") (hdesired : desired[index]? = some integration)
    (houtput : outputs[index]? = some output)
    (hshown : Shown (after.rolesOf project) integration role output)
    (hlast : Unknown (cloud.rolesOf project) integration → ∀ later > index, ∀ other,
      desired[later]? = some other → identifier other ≠ identifier integration) :
    Latest (after.rolesOf project) (identifier integration) role := by
  refine ⟨hshown.mem, hshown.identifier_eq, fun other hother hsame => ?_⟩
  obtain ⟨status, _, shown, hstatus, hindex, hother_shown, hid, hacts⟩ :=
    exists_shown hnumbered hregular hrun hphases hdesired
  obtain rfl := Option.some.inj (hindex.symm.trans houtput)
  have hrole : role.roleId = status.roleId := by
    rw [← hshown.roleId_eq, hother_shown.roleId_eq, hid]
  cases hknown : knownAmong integration (cloud.rolesOf project) with
  | true =>
      -- The roles with the identifier are those of before, and their last one was linked.
      obtain ⟨linked, hlatest, heq⟩ := exists_latest_of_known hknown
      rw [getElem?_placed hregular.named, hdesired, Option.map_some, if_pos hknown, heq] at hstatus
      obtain rfl := Option.some.inj hstatus
      rw [hrole]
      exact hlatest.roleId_le other (mem_before_of_known hregular hrun hnamed hlatest.mem
        hlatest.identifier_eq hother hsame) hsame
  | false =>
      have hunknown : Unknown (cloud.rolesOf project) integration :=
        knownAmong_eq_false_iff.mp hknown
      have hunlisted : ∀ listed ∈ cloud.rolesOf project, identifier listed ≠ identifier other :=
        hsame ▸ hunknown.resolve_left hnamed
      obtain ⟨place, declared, claimer, entry, hplace, hclaimer, hentry, hentry_shown, hentry_id⟩ :=
        exists_shown_of_unlisted hnumbered hregular hrun hphases hother hunlisted
      have hmatch : identifier declared = identifier integration :=
        hentry_shown.identifier_eq.symm.trans hsame
      rw [hentry_id, hrole]
      rcases Nat.lt_trichotomy place index with hbefore | rfl | hafter
      · have hclaimer_acts : acts claimer = true := by
          obtain ⟨_, _, _, hagain, _, _, _, hclaimer_acts⟩ :=
            exists_shown hnumbered hregular hrun hphases hplace
          obtain rfl := Option.some.inj (hagain.symm.trans hclaimer)
          exact hclaimer_acts (hunknown.imp (hmatch ▸ ·) fun hne => hmatch ▸ hne)
        exact (roleId_lt_of_acts hregular hclaimer hstatus hbefore hclaimer_acts
          (hacts hunknown)).le
      · obtain rfl := Option.some.inj (hclaimer.symm.trans hstatus)
        exact le_refl _
      · exact absurd hmatch (hlast hunknown place hafter declared hplace)

/-- Two entries with an identifier that was not listed before show different roles, and would
show the same one if the report were what is matched behind the pass. -/
theorem nodup_of_matched_eq_outputs
    (hnamed : ∀ integration ∈ desired, identifier integration ≠ "")
    (h : matched desired (after.rolesOf project) = outputs) :
    ((difference desired (cloud.rolesOf project)).map identifier).Nodup := by
  rw [nodup_difference_iff]
  intro early late first second hlt hearly hlate hfirst hsecond hsame
  obtain ⟨before, output, role, hbefore, hreport, hshown, hid, hacts⟩ :=
    exists_shown hnumbered hregular hrun hphases hearly
  obtain ⟨behind, last, other, hbehind, hother_report, hother_shown, hother_id, hother_acts⟩ :=
    exists_shown hnumbered hregular hrun hphases hlate
  have hknown : knownAmong first (after.rolesOf project) = true :=
    knownAmong_eq_true_iff.mpr
      ⟨hnamed first (List.mem_of_getElem? hearly), role, hshown.mem, hshown.identifier_eq⟩
  have hroles : output.roleId = last.roleId :=
    roleId_eq_of_matched ((hnumbered.execution hrun).nodup_rolesOf project) hearly hlate hsame
      hknown (h ▸ hreport) (h ▸ hother_report)
  have hlt_ids : before.roleId < behind.roleId :=
    roleId_lt_of_acts hregular hbefore hbehind hlt (hacts hfirst) (hother_acts hsecond)
  rw [← hid, ← hother_id, ← hshown.roleId_eq, ← hother_shown.roleId_eq, hroles] at hlt_ids
  exact absurd hlt_ids (lt_irrefl _)

/-- If no identifier that was not listed before is declared twice, every entry shows the last
role with its identifier. -/
theorem matched_eq_outputs_of_nodup
    (hnamed : ∀ integration ∈ desired, identifier integration ≠ "")
    (h : ((difference desired (cloud.rolesOf project)).map identifier).Nodup) :
    matched desired (after.rolesOf project) = outputs := by
  have hpairs := nodup_difference_iff.mp h
  refine List.ext_getElem? fun index => ?_
  cases hdesired : desired[index]? with
  | none =>
      have hlength : desired.length ≤ index := List.getElem?_eq_none_iff.mp hdesired
      have houtputs : outputs.length = desired.length :=
        ((forall₂_placement hregular.named).length_eq.trans
          (forall₂_became hnumbered hregular hrun hphases).length_eq).symm
      have hmatched : (matched desired (after.rolesOf project)).length = desired.length := by
        simp [matched]
      rw [List.getElem?_eq_none_iff.mpr (hmatched ▸ hlength),
        List.getElem?_eq_none_iff.mpr (houtputs ▸ hlength)]
  | some integration =>
      obtain ⟨_, output, role, _, houtput, hshown, _, _⟩ :=
        exists_shown hnumbered hregular hrun hphases hdesired
      have hid := hnamed integration (List.mem_of_getElem? hdesired)
      have hlatest := latest_of_shown hnumbered hregular hrun hphases hid hdesired houtput hshown
        fun hunknown later hlt other hlater hsame =>
          hpairs index later integration other hlt hdesired hlater hunknown
            (hunknown.imp (hsame ▸ ·) fun hne => hsame ▸ hne) hsame.symm
      rw [getElem?_matched_of_latest ((hnumbered.execution hrun).nodup_rolesOf project) hdesired
        hid hlatest, houtput, hshown.status_eq]

end Sync

/-! ## The pass behind a fine one -/

section Ensure

variable {cloud after last : MemoryCloud} {now later : Moment} {project : Project}
  {guarded protect : Bool} {conditions others : Conditions} {ensured again : Ensured}
  {reported next : List Status}

/-- A pass that has nothing left to do reports the declared integrations as linked anew. -/
theorem statuses_of_realized_pass
    (hpass : cloud.Execution (ensure now project guarded conditions) ensured after)
    (h : Realized cloud project.id project.spec.declared reported)
    (hnext : ensured.statuses = some next) :
    next = matched project.spec.declared (cloud.rolesOf project.id) := by
  rcases ensure_cases hpass with
    ⟨_, ⟨_, rfl⟩ | ⟨result, _, rfl⟩⟩ | ⟨middle, statuses, _, _, _, ⟨exchanges, hsync, _⟩, rfl⟩
  · cases hnext
  · cases hnext
  · obtain rfl : statuses = next := Option.some.inj hnext
    rw [sync_of_realized h] at hsync
    exact (Program.trace_done_iff.mp hsync).2

/-- After a pass that is fine, another one over the project that it gave back, with nobody
else at the cloud in between, reports the same statuses if and only if no identifier that
was not listed at first is declared twice.  In any case its entries show the role that the
last entry with the same identifier was given. -/
theorem statuses_repeat_iff (hreachable : cloud.Reachable)
    (hpass : cloud.Execution (ensure now project guarded conditions) ensured after)
    (hok : ensured.result.isOk = true) (hreported : ensured.statuses = some reported)
    (hagain : after.Execution
      (ensure later (Project.after now project ensured).resource protect others) again last)
    (hnext : again.statuses = some next) :
    (next = reported ↔
      ((difference project.spec.declared (cloud.rolesOf project.id)).map identifier).Nodup) ∧
    ∀ (index place : Nat) (integration other : Integration),
      project.spec.declared[index]? = some integration →
      project.spec.declared[place]? = some other → identifier other = identifier integration →
      (∀ behind > place, ∀ third, project.spec.declared[behind]? = some third →
        identifier third ≠ identifier other) →
        ∃ role ∈ after.rolesOf project.id,
          reported[place]? = some ((declare other).linked role) ∧
          next[index]? = some ((declare integration).linked role) := by
  rcases ensure_cases hpass with
    ⟨_, ⟨_, rfl⟩ | ⟨result, _, rfl⟩⟩ | ⟨middle, outputs, hsame, _, _, hrun, rfl⟩
  · cases hreported
  · cases hreported
  · obtain rfl : outputs = reported := Option.some.inj hreported
    have hphases : ∀ output ∈ outputs, output.phase = .authorized :=
      fun output houtput => (isOk_aligned_iff.mp hok output houtput).2
    have hroles := hsame.rolesOf_eq project.id
    have hregular : Regular (middle.rolesOf project.id) := hroles ▸ hreachable.regular project.id
    have hnumbered : middle.Numbered := hreachable.numbered.of_sameRoles hsame
    rw [← hroles] at hrun ⊢
    have hrealized : Realized after project.id project.spec.declared outputs :=
      realized_of_sync hnumbered hregular hrun hphases (hreachable.dated.ensure hpass)
    have hnamed : ∀ integration ∈ project.spec.declared, identifier integration ≠ "" :=
      fun integration hdeclared =>
        Integration.identifier_ne_empty_iff.mpr (hrealized.complete integration hdeclared)
    have hlinked := statuses_of_realized_pass hagain hrealized hnext
    obtain rfl : next = matched project.spec.declared (after.rolesOf project.id) := hlinked
    refine ⟨⟨nodup_of_matched_eq_outputs hnumbered hregular hrun hphases hnamed,
      matched_eq_outputs_of_nodup hnumbered hregular hrun hphases hnamed⟩, ?_⟩
    intro index place integration other hindex hplace hmatch hlast
    have hid := hnamed other (List.mem_of_getElem? hplace)
    obtain ⟨_, output, role, _, houtput, hshown, _, _⟩ :=
      exists_shown hnumbered hregular hrun hphases hplace
    have hlatest := latest_of_shown hnumbered hregular hrun hphases hid hplace houtput hshown
      fun _ behind hlt third hthird => hlast behind hlt third hthird
    refine ⟨role, hshown.mem, houtput.trans (congrArg some hshown.status_eq), ?_⟩
    exact getElem?_matched_of_latest ((hnumbered.execution hrun).nodup_rolesOf project.id) hindex
      (hmatch ▸ hid) (hmatch ▸ hlatest)

end Ensure

/-- Different identifiers are declared for the mixed cloud, and so the second pass over it
reports what the first one did. -/
theorem statuses_repeat_mixed : ∃ ensured after again last reported,
    mixedCloud.Execution (ensure creationTime twoRoles false .empty) ensured after ∧
      ensured.result.isOk = true ∧ ensured.statuses = some reported ∧
      after.Execution (ensure creationTime (Project.after creationTime twoRoles ensured).resource
        false .empty) again last ∧
      again.statuses = some reported := by
  have hpass := execution_run (ensure creationTime twoRoles false .empty) mixedCloud
  have hok : (mixedCloud.run (ensure creationTime twoRoles false .empty)).1.result.isOk = true := by
    cbv
  have hsome :
      (mixedCloud.run (ensure creationTime twoRoles false .empty)).1.statuses.isSome = true := by
    cbv
  have hagain := execution_run (ensure creationTime (Project.after creationTime twoRoles
    (mixedCloud.run (ensure creationTime twoRoles false .empty)).1).resource false .empty)
    (mixedCloud.run (ensure creationTime twoRoles false .empty)).2
  have hnext : ((mixedCloud.run (ensure creationTime twoRoles false .empty)).2.run
      (ensure creationTime (Project.after creationTime twoRoles
        (mixedCloud.run (ensure creationTime twoRoles false .empty)).1).resource
          false .empty)).1.statuses.isSome = true := by
    cbv
  have hdistinct : ((difference twoRoles.spec.declared
      (mixedCloud.rolesOf twoRoles.id)).map identifier).Nodup := by
    decide
  obtain ⟨reported, hreported⟩ := Option.isSome_iff_exists.mp hsome
  obtain ⟨next, hstatuses⟩ := Option.isSome_iff_exists.mp hnext
  obtain rfl : next = reported := (statuses_repeat_iff reachable_mixedCloud hpass hok hreported
    hagain hstatuses).1.mpr hdistinct
  exact ⟨_, _, _, _, next, hpass, hok, hreported, hagain, hstatuses⟩

/-- A project that declares the same role twice. -/
def twinRoles : Project where
  metadata := .new "twin-roles"
  spec := {
    name := "twin-roles"
    accessRoles := []
    integrations := [⟨"AWS", "arn:1"⟩, ⟨"AWS", "arn:1"⟩] }
  status := { id := "p", conditions := .empty, integrations := [] }

/-- A cloud with two roles that can be claimed. -/
def twinCloud : MemoryCloud :=
  (MemoryCloud.empty.addRole "p" "AWS" "").addRole "p" "AWS" ""

/-- So it is not true that two passes in a row report the same: the first one gives each of
the two entries a role of its own, and the second one shows the last of these for both. -/
theorem not_forall_statuses_repeat :
    ¬∀ (cloud : MemoryCloud) (now later : Moment) (project : Project) (guarded : Bool)
      (conditions others : Conditions) (reported next : List Status),
      cloud.Reachable → cloud.failures = [] →
      (cloud.run (ensure now project guarded conditions)).1.result.isOk = true →
      (cloud.run (ensure now project guarded conditions)).1.statuses = some reported →
      ((cloud.run (ensure now project guarded conditions)).2.run
        (ensure later (Project.after now project
          (cloud.run (ensure now project guarded conditions)).1).resource
          guarded others)).1.statuses = some next →
        next = reported := by
  intro hall
  have hreachable : twinCloud.Reachable := .addRole "p" "AWS" "" (.addRole "p" "AWS" "" .empty)
  have hok : (twinCloud.run (ensure creationTime twinRoles false .empty)).1.result.isOk = true := by
    cbv
  have hfirst : (twinCloud.run (ensure creationTime twinRoles false .empty)).1.statuses.map
      (List.map Status.roleId) = some ["role-0001", "role-0002"] := by
    cbv
  have hsecond : ((twinCloud.run (ensure creationTime twinRoles false .empty)).2.run
      (ensure creationTime (Project.after creationTime twinRoles
        (twinCloud.run (ensure creationTime twinRoles false .empty)).1).resource
          false .empty)).1.statuses.map (List.map Status.roleId) =
        some ["role-0002", "role-0002"] := by
    cbv
  obtain ⟨reported, hreported, hreported_ids⟩ := Option.map_eq_some_iff.mp hfirst
  obtain ⟨next, hnext, hnext_ids⟩ := Option.map_eq_some_iff.mp hsecond
  obtain rfl := hall twinCloud creationTime creationTime twinRoles false .empty .empty reported next
    hreachable rfl hok hreported hnext
  rw [hreported_ids] at hnext_ids
  exact absurd hnext_ids (by decide)

end Integrations

end CloudSteward
