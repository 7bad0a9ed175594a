import CloudSteward.Proofs.Integrations.Calm
import CloudSteward.Proofs.Integrations.Supply
import Mathlib

/-!
# Retries do not leak roles

A pass that fails half way is tried again, and the next one links from scratch.  So a role
whose creation was answered too late to be used is not lost: as long as it has no `arn` it
is in supply, and the next pass claims it before it asks for another one.

What counts is therefore not how often something was tried, but the limit with which the
first attempt began (`roleLimit`).  An attempt is as much of a pass as has happened, with
whatever failures (`Attempts`); it drives the statuses of the roles that it was shown, so
it does not raise the limit (`roleLimit_le_of_answers`), and no moment of any later attempt
has more roles than that.
-/

namespace CloudSteward

namespace Integrations

open Linking MemoryCloud

variable {cloud after : MemoryCloud} {now : Moment} {project : Project} {guarded : Bool}
  {conditions : Conditions} {exchanges happened missing : List Exchange} {ensured : Ensured}

/-! ## As much of a pass as has happened -/

/-- A pass only lists the roles, or it goes on with a run over those that it was shown. -/
theorem listing_or_run (h : (ensure now project guarded conditions).Trace exchanges ensured) :
    (∀ exchange ∈ exchanges, exchange.question = .listRoles project.id) ∨
      ∃ remote behind outputs, exchanges = ⟨.listRoles project.id, .ok remote⟩ :: behind ∧
        (sync project.id project.spec.declared remote).Trace behind outputs := by
  have hsingle (reply : Call.Reply (.listRoles project.id)) :
      ∀ exchange ∈ [(⟨.listRoles project.id, reply⟩ : Exchange)],
        exchange.question = .listRoles project.id := by
    intro exchange hmem
    rw [List.mem_singleton.mp hmem]
  cases trace_ensure h with
  | idle => exact .inl (List.forall_mem_nil _)
  | unread error => exact .inl (hsingle _)
  | undecided remote error => exact .inl (hsingle _)
  | refused remote => exact .inl (hsingle _)
  | cleared remote => exact .inl (hsingle _)
  | aligned remote _ _ hsync => exact .inr ⟨remote, _, _, rfl, hsync⟩

/-- What has happened of a pass left the roles as they were, or it was turns of the statuses
that belong to them. -/
theorem sameRoles_or_changes (hnumbered : cloud.Numbered)
    (htrace : (ensure now project guarded conditions).Trace (happened ++ missing) ensured)
    (hanswers : cloud.Answers happened after) :
    after.rolesOf project.id = cloud.rolesOf project.id ∨
      ∃ turns, turns.map Turn.status =
          statuses project.spec.declared (cloud.rolesOf project.id) ∧
        Changes (cloud.rolesOf project.id) turns (after.rolesOf project.id) := by
  rcases listing_or_run htrace with hlistings | ⟨remote, behind, outputs, hsplit, hsync⟩
  · refine .inl (hanswers.rolesOf_eq fun exchange hmem => ?_)
    rw [hlistings exchange (List.mem_append_left _ hmem)]
    rfl
  · cases happened with
    | nil =>
        -- Not even the listing has happened.
        exact .inl (hanswers.sameRoles.rolesOf_eq project.id)
    | cons exchange rest =>
        obtain ⟨rfl, rfl⟩ := List.cons_eq_cons.mp hsplit
        obtain ⟨rfl, middle, hsame, hrest⟩ := hanswers.cons_listed
        rw [← hsame.rolesOf_eq project.id]
        exact .inr (exists_changes_of_answers (hnumbered.of_sameRoles hsame)
          (hsame.rolesOf_eq project.id ▸ hsync) hrest)

end Integrations

namespace MemoryCloud

open Integrations

variable {cloud after : MemoryCloud} {now : Moment} {project : Project} {guarded : Bool}
  {conditions : Conditions} {happened missing : List Exchange} {ensured : Ensured}

theorem Dated.answers (h : cloud.Dated)
    (htrace : (Integrations.ensure now project guarded conditions).Trace (happened ++ missing)
      ensured)
    (hanswers : cloud.Answers happened after) : after.Dated :=
  hanswers.preserves Dated
    (fun exchange => ∀ other roleId provider,
      exchange.question ≠ .authorizeRole other roleId provider "")
    (fun hsame hcloud => hcloud.of_sameRoles hsame)
    (fun hallowed heffect hcloud => hcloud.step heffect hallowed)
    (fun exchange hmem =>
      (passCall_of_trace htrace exchange (List.mem_append_left _ hmem)).ne_authorize_empty) h

end MemoryCloud

namespace Project

open Integrations Linking MemoryCloud

variable {cloud before after current : MemoryCloud} {now : Moment} {project : Project}
  {guarded : Bool} {conditions : Conditions} {happened missing : List Exchange}
  {ensured : Ensured}

/-- As much of a pass as has happened does not raise the limit. -/
theorem roleLimit_le_of_answers (hnumbered : cloud.Numbered) (hdated : cloud.Dated)
    (htrace : (ensure now project guarded conditions).Trace (happened ++ missing) ensured)
    (hanswers : cloud.Answers happened after) :
    roleLimit project.spec.declared (after.rolesOf project.id) ≤
      roleLimit project.spec.declared (cloud.rolesOf project.id) := by
  rcases sameRoles_or_changes hnumbered htrace hanswers with hsame | ⟨turns, hturns, hchanges⟩
  · rw [hsame]
  · exact roleLimit_le (regular_rolesOf hnumbered hdated project.id) hturns hchanges

/-! ## Attempt after attempt -/

/-- Attempts at the integrations of a project, one after the other.  Each is as much of a
pass as has happened, protected or not, over what the ones before made of the project, of
which only the declaration and the identity are kept for sure.  Failures may be ordered at
any moment. -/
inductive Attempts (project : Project) (cloud : MemoryCloud) : MemoryCloud → Prop where
  | none : Attempts project cloud cloud
  | next {before after : MemoryCloud} {now : Moment} {given : Project} {guarded : Bool}
      {conditions : Conditions} {happened missing : List Exchange} {ensured : Ensured} :
      Attempts project cloud before → given.spec = project.spec → given.id = project.id →
      (ensure now given guarded conditions).Trace (happened ++ missing) ensured →
      before.Answers happened after → Attempts project cloud after

theorem Attempts.invariant (h : Attempts project cloud current) (hreachable : cloud.Reachable) :
    current.Numbered ∧ current.Dated ∧
      roleLimit project.spec.declared (current.rolesOf project.id) ≤
        roleLimit project.spec.declared (cloud.rolesOf project.id) := by
  induction h with
  | none => exact ⟨hreachable.numbered, hreachable.dated, Nat.le_refl _⟩
  | @next before after now given _ _ _ _ _ _ hspec hid htrace hanswers ih =>
      obtain ⟨hnumbered, hdated, hlimit⟩ := ih
      have hstep := roleLimit_le_of_answers hnumbered hdated htrace hanswers
      rw [hspec, hid] at hstep
      exact ⟨hnumbered.answers hanswers, hdated.answers htrace hanswers, hstep.trans hlimit⟩

/-- Whatever fails, and however often a pass over a project is tried again, there are never
more roles of the project than its limit allowed at the start: those that had an `arn`, and
the larger of the number of those that had none and the number of declared integrations
without a role.  Nor is the limit ever raised. -/
theorem length_rolesOf_le_roleLimit (hreachable : cloud.Reachable)
    (hattempts : Attempts project cloud current) :
    (current.rolesOf project.id).length ≤ roleLimit project.spec.declared
        (cloud.rolesOf project.id) ∧
      roleLimit project.spec.declared (current.rolesOf project.id) ≤
        roleLimit project.spec.declared (cloud.rolesOf project.id) := by
  obtain ⟨_, _, hlimit⟩ := hattempts.invariant hreachable
  exact ⟨(length_le_roleLimit _ _).trans hlimit, hlimit⟩

/-- A project that declares one integration twice, and another one without an `arn`. -/
def crowded : Project where
  metadata := .new "crowded"
  spec := {
    name := "crowded"
    accessRoles := []
    integrations := [⟨"AWS", "arn:1"⟩, ⟨"AWS", "arn:1"⟩, ⟨"AWS", ""⟩] }
  status := { id := "p", conditions := .empty, integrations := [] }

/-- A cloud with a role that this project does not declare, and one that it can claim. -/
def crowdedCloud : MemoryCloud :=
  (MemoryCloud.empty.addRole "p" "AWS" "old").addRole "p" "AWS" ""

theorem reachable_crowdedCloud : crowdedCloud.Reachable :=
  .addRole "p" "AWS" "" (.addRole "p" "AWS" "old" .empty)

/-- The failures that await the passes over this project: one of each kind, and two removals. -/
def troubles : List (Operation × String) :=
  [(.createRole, "quota"), (.authorizeRole, "trust"), (.deauthorizeRole, "in use"),
    (.deauthorizeRole, "in use")]

def troubledCloud : MemoryCloud :=
  troubles.foldl (fun cloud trouble => cloud.orderFailure trouble.1 trouble.2) crowdedCloud

theorem reachable_troubledCloud : troubledCloud.Reachable :=
  .orderFailure _ _ (.orderFailure _ _ (.orderFailure _ _ (.orderFailure _ _
    reachable_crowdedCloud)))

theorem attempts_visited (h : Attempts project cloud current) (hsome : hasNone project = false)
    (hlisted : current.orderedFailure? .listRoles = none) :
    Attempts project cloud (visited project current) := by
  obtain ⟨exchanges, htrace, hanswers⟩ :=
    execution_run (ensure creationTime project false .empty) current
  rw [run_ensure_snd hsome hlisted] at hanswers
  rw [← List.append_nil exchanges] at htrace
  exact h.next rfl rfl htrace hanswers

/-- After the second attempt there are as many roles as the limit allows: what failed in the
first one was made up for, and the role that nobody declared is still there. -/
theorem length_rolesOf_troubled :
    ∃ current, Attempts crowded troubledCloud current ∧
      (current.rolesOf "p").length = 4 ∧
      roleLimit crowded.spec.declared (troubledCloud.rolesOf "p") = 4 ∧
      (current.rolesOf "p").length ≤ roleLimit crowded.spec.declared
        (troubledCloud.rolesOf "p") ∧
      roleLimit crowded.spec.declared (current.rolesOf "p") ≤ 4 := by
  have hlimit : roleLimit crowded.spec.declared (troubledCloud.rolesOf "p") = 4 := by cbv
  have hfull : ((visited crowded (visited crowded troubledCloud)).rolesOf "p").length = 4 := by cbv
  have hfirst : troubledCloud.orderedFailure? .listRoles = none := by cbv
  have hsecond : (visited crowded troubledCloud).orderedFailure? .listRoles = none := by cbv
  have hattempts := attempts_visited (attempts_visited .none rfl hfirst) rfl hsecond
  generalize visited crowded (visited crowded troubledCloud) = current at hfull hattempts
  obtain ⟨hlength, hlower⟩ := length_rolesOf_le_roleLimit reachable_troubledCloud hattempts
  exact ⟨current, hattempts, hfull, hlimit, hlength, hlimit ▸ hlower⟩

end Project

end CloudSteward
