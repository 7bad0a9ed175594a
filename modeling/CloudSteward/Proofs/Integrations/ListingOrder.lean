import CloudSteward.Proofs.Integrations.Soundness
import CloudSteward.Proofs.Ownership
import CloudSteward.Proofs.Parallel

/-!
# The order of the listing does not matter

The cloud may list the roles of a project in any order.  Linking sorts them first, and roles
with ids of their own can be sorted in one way only (`sortRoles_eq_of_perm`); behind that
nothing looks at the listing again, so the statuses, and with them the whole run, are the
same.  Deletion protection asks which roles are there and not where, so its decision does
not depend on the order either, and for that the ids may even repeat
(`permitsProject_eq_of_mem_iff`).

Where two roles share an id the sort keeps them as they were listed, and the last one with
an identifier is linked; so linking does need the ids to differ.
-/

namespace CloudSteward

variable {listed shuffled : List Role}

/-! ## Sorting -/

namespace Linking

theorem sortRoles_eq_of_perm (hdistinct : (listed.map Role.roleId).Nodup)
    (hshuffled : shuffled.Perm listed) : sortRoles shuffled = sortRoles listed := by
  have hperm : (sortRoles shuffled).Perm (sortRoles listed) :=
    (sortRoles_perm shuffled).trans (hshuffled.trans (sortRoles_perm listed).symm)
  -- Roles whose ids are neither before nor behind each other are one and the same.
  refine hperm.eq_of_pairwise ?_ (pairwise_sortRoles shuffled) (pairwise_sortRoles listed)
  intro first second hfirst hsecond hle hge
  have hone : first ∈ listed := hshuffled.mem_iff.mp (mem_sortRoles_iff.mp hfirst)
  have htwo : second ∈ listed := mem_sortRoles_iff.mp hsecond
  exact List.inj_on_of_nodup_map hdistinct hone htwo (String.le_antisymm hle hge)

theorem statuses_eq_of_perm (hdistinct : (listed.map Role.roleId).Nodup)
    (hshuffled : shuffled.Perm listed) (desired : List Integration) :
    statuses desired shuffled = statuses desired listed := by
  unfold statuses
  rw [sortRoles_eq_of_perm hdistinct hshuffled]

end Linking

/-! ## Deletion protection -/

namespace Ownership

theorem owned_congr (hmem : ∀ role, role ∈ shuffled ↔ role ∈ listed)
    (lastApplied current : List Integration) :
    Owned lastApplied current shuffled ↔ Owned lastApplied current listed := by
  unfold Owned
  simp only [hmem]

/-- The decision of the operator, be it an error, depends on which roles are there. -/
theorem permitsProject_eq_of_mem_iff (hmem : ∀ role, role ∈ shuffled ↔ role ∈ listed)
    (guarded : Bool) (project : Project) :
    permitsProject guarded project shuffled = permitsProject guarded project listed := by
  have hvisible (lastApplied : List Integration) :
      permits true lastApplied project.spec.declared
          (shuffled.filter fun role => role.arn ≠ "") =
        permits true lastApplied project.spec.declared
          (listed.filter fun role => role.arn ≠ "") := by
    rw [Bool.eq_iff_iff, permits_visible_iff, permits_visible_iff]
    exact owned_congr hmem lastApplied project.spec.declared
  unfold permitsProject
  cases guarded with
  | false => rfl
  | true => simp only [hvisible]

end Ownership

/-! ## The run -/

namespace Integrations

open Linking Ownership MemoryCloud

/-- However the roles are listed, linking gives the same statuses, clients that answer alike
are asked the same calls and leave the same statuses, and deletion protection decides alike. -/
theorem indifferent_of_perm (hdistinct : (listed.map Role.roleId).Nodup)
    (hshuffled : shuffled.Perm listed) (desired : List Integration) :
    statuses desired shuffled = statuses desired listed ∧
      (∀ {State Other : Type} (first : (call : Call) → StateM State call.Reply)
        (second : (call : Call) → StateM Other call.Reply) (similar : State → Other → Prop),
        Program.AnswerAlike first second similar →
        ∀ (owner : String) (state : State) (twin : Other), similar state twin →
          (sync owner desired shuffled).record first state =
              (sync owner desired listed).record second twin ∧
            ((sync owner desired shuffled).run first state).1 =
              ((sync owner desired listed).run second twin).1) ∧
      ∀ (guarded : Bool) (project : Project),
        permitsProject guarded project shuffled = permitsProject guarded project listed := by
  have hstatuses := statuses_eq_of_perm hdistinct hshuffled desired
  refine ⟨hstatuses, ?_, fun guarded project =>
    permitsProject_eq_of_mem_iff (fun _ => hshuffled.mem_iff) guarded project⟩
  intro State Other first second similar halike owner state twin hsimilar
  have hsync : sync owner desired shuffled = sync owner desired listed :=
    congrArg (stepAll owner) hstatuses
  rw [hsync]
  exact halike.record_eq _ hsimilar

/-- The roles of the mixed cloud, listed backwards. -/
theorem indifferent_mixedCloud :
    (mixedCloud.rolesOf "p").reverse ≠ mixedCloud.rolesOf "p" ∧
      (sync "p" twoRoles.spec.declared (mixedCloud.rolesOf "p").reverse).record answer mixedCloud =
        (sync "p" twoRoles.spec.declared (mixedCloud.rolesOf "p")).record answer mixedCloud ∧
      permitsProject true twoRoles (mixedCloud.rolesOf "p").reverse =
        permitsProject true twoRoles (mixedCloud.rolesOf "p") := by
  have hdistinct : ((mixedCloud.rolesOf "p").map Role.roleId).Nodup := by decide
  have halike : Program.AnswerAlike answer answer (Eq : MemoryCloud → MemoryCloud → Prop) := by
    rintro call state _ rfl
    exact ⟨rfl, rfl⟩
  obtain ⟨_, hruns, hverdicts⟩ :=
    indifferent_of_perm hdistinct (List.reverse_perm _) twoRoles.spec.declared
  exact ⟨by decide, (hruns answer answer Eq halike "p" mixedCloud mixedCloud rfl).1,
    hverdicts true twoRoles⟩

end Integrations

end CloudSteward
