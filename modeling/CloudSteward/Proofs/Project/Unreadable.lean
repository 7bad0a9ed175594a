import CloudSteward.Proofs.Applied
import CloudSteward.Proofs.Project.Lockout

/-!
# Records that cannot be read

Where no role is visible there is nothing to protect, and protection permits everything,
whatever is declared and whatever was applied last.  But the record is read before anyone looks
at the roles.  So a record that cannot be read leaves the pass undecided, although it would not
count (`BareVerdict`).

Waiting does not help.  A protected pass over such a project ends with the listing, and a pass
that is not fine puts nothing on record, so the next one is where this one was (`Stalled`).  The
operator does not get there by itself, as what it puts on record can be read.
-/

namespace CloudSteward

/-- What is on record of a project, if anything is, can be read. -/
def Metadata.Readable (metadata : Metadata) : Prop :=
  ∃ snapshot, metadata.applied ProjectSpec.codec = .ok snapshot

theorem Metadata.not_readable_iff {metadata : Metadata} :
    ¬metadata.Readable ↔ ∃ fault, metadata.applied ProjectSpec.codec = .error fault := by
  unfold Readable
  cases metadata.applied ProjectSpec.codec with
  | ok snapshot => simp
  | error fault => simp

/-! ## The decision -/

namespace Ownership

variable {guarded : Bool} {project : Project} {remote : List Role}

/-- How it is decided whether roles may be changed while none is visible. -/
structure BareVerdict (guarded : Bool) (project : Project)
    (verdict : Except OwnershipError Bool) : Prop where
  permitted_iff : verdict = .ok true ↔ guarded = false ∨ project.metadata.Readable
  not_refused : verdict ≠ .ok false
  undecided_iff : ∀ error, verdict = .error error ↔ guarded = true ∧
    ∃ fault, project.metadata.applied ProjectSpec.codec = .error fault ∧
      error = .malformedLastApplied fault

/-- The roles do not matter if the record cannot be read. -/
theorem permitsProject_of_unreadable {fault : Json.Error}
    (h : project.metadata.applied ProjectSpec.codec = .error fault) (remote : List Role) :
    permitsProject true project remote = .error (.malformedLastApplied fault) := by
  unfold permitsProject
  rw [h]
  rfl

theorem bareVerdict (hbare : ∀ role ∈ remote, role.arn = "") (guarded : Bool)
    (project : Project) : BareVerdict guarded project (permitsProject guarded project remote) := by
  cases guarded with
  | false =>
      have hverdict : permitsProject false project remote = .ok true := rfl
      rw [hverdict]
      exact ⟨by simp, by simp, by simp⟩
  | true =>
      cases happlied : project.metadata.applied ProjectSpec.codec with
      | error fault =>
          have hunreadable := Metadata.not_readable_iff.mpr ⟨fault, happlied⟩
          rw [permitsProject_of_unreadable happlied]
          exact
            { permitted_iff := by simp [hunreadable]
              not_refused := by simp
              undecided_iff := by simp [happlied, eq_comm] }
      | ok snapshot =>
          have hverdict : permitsProject true project remote = .ok true :=
            permitsProject_eq_ok_iff.mpr ⟨snapshot, happlied, iff_of_true rfl (.inl hbare)⟩
          rw [hverdict]
          exact
            { permitted_iff := iff_of_true rfl (.inr ⟨snapshot, happlied⟩)
              not_refused := by simp
              undecided_iff := by simp [happlied] }

end Ownership

/-! ## Passes -/

namespace Project

open Integrations MemoryCloud Ownership

variable {now : Moment} {guarded : Bool} {project later : Project} {exchanges calls : List Exchange}
  {reconciled : Reconciled Project}

/-- Some passes after each other, with the calls of all of them and any replies. -/
inductive Visited (project : Project) (guarded : Bool) : List Exchange → Project → Prop where
  | none : Visited project guarded [] project
  | next {now : Moment} {earlier : Project} {calls exchanges : List Exchange}
      {reconciled : Reconciled Project} : Visited project guarded calls earlier →
      (earlier.reconcile now guarded).Trace exchanges reconciled →
        Visited project guarded (calls ++ exchanges) reconciled.resource

/-- Nothing came of some passes but listings, and the next pass starts where they started. -/
structure Stalled (project : Project) (calls : List Exchange) (later : Project) : Prop where
  metadata_eq : later.metadata = project.metadata
  spec_eq : later.spec = project.spec
  id_eq : later.id = project.id
  statuses_eq : later.status.integrations = project.status.integrations
  listings : ∀ exchange ∈ calls, exchange.question = .listRoles project.id

theorem Stalled.trans {middle : Project} (hfirst : Stalled project calls middle)
    (hsecond : Stalled middle exchanges later) : Stalled project (calls ++ exchanges) later where
  metadata_eq := hsecond.metadata_eq.trans hfirst.metadata_eq
  spec_eq := hsecond.spec_eq.trans hfirst.spec_eq
  id_eq := hsecond.id_eq.trans hfirst.id_eq
  statuses_eq := hsecond.statuses_eq.trans hfirst.statuses_eq
  listings := by
    refine List.forall_mem_append.mpr ⟨hfirst.listings, fun exchange hmem => ?_⟩
    rw [hsecond.listings exchange hmem, hfirst.id_eq]

/-- A pass keeps the record or puts one there that can be read. -/
theorem readable_of_reconcile (h : (project.reconcile now guarded).Trace exchanges reconciled)
    (hreadable : project.metadata.Readable) : reconciled.resource.metadata.Readable := by
  rcases trace_reconcile h with ⟨_, _, rfl⟩ | ⟨_, _, _, rfl⟩ | ⟨_, _, ensured, _, rfl⟩
  · exact hreadable
  · exact hreadable
  · unfold after
    by_cases hok : ensured.result.isOk = true
    · simp only [hok, if_true]
      exact ⟨_, Project.applied_setApplied project.metadata project.spec⟩
    · simp only [hok]
      exact hreadable

/-- A pass that stops right after the listing changes no more than conditions. -/
theorem stalled_after_stopped {result : PassResult} (hresult : result.isOk = false)
    (reply : Call.Reply (.listRoles project.id)) :
    Stalled project [⟨.listRoles project.id, reply⟩]
      (after now project (stopped now project.status.conditions result)).resource where
  metadata_eq := by simp [after, stopped, hresult]
  spec_eq := rfl
  id_eq := rfl
  statuses_eq := rfl
  listings := List.forall_mem_singleton.mpr rfl

/-- One protected pass does not get further than the record that it cannot read. -/
theorem stalled_of_reconcile (h : (project.reconcile now true).Trace exchanges reconciled)
    (hunreadable : ¬project.metadata.Readable) :
    Stalled project exchanges reconciled.resource := by
  have hundecided {remote : List Role} {permitted : Bool}
      (hpermits : permitsProject true project remote = .ok permitted) : False := by
    obtain ⟨snapshot, happlied, _⟩ := permitsProject_eq_ok_iff.mp hpermits
    exact hunreadable ⟨snapshot, happlied⟩
  rcases trace_reconcile h with ⟨_, rfl, rfl⟩ | ⟨_, _, rfl, rfl⟩ | ⟨_, _, ensured, hensure, rfl⟩
  · exact ⟨rfl, rfl, rfl, rfl, List.forall_mem_nil _⟩
  · exact ⟨rfl, rfl, rfl, rfl, List.forall_mem_nil _⟩
  · cases trace_ensure hensure with
    | idle hopen => cases hopen
    | unread error => exact stalled_after_stopped (isOk_unread true error) _
    | undecided remote error => exact stalled_after_stopped rfl _
    | refused remote hpermits => exact (hundecided hpermits).elim
    | cleared remote hpermits => exact (hundecided hpermits).elim
    | aligned remote hpermits => exact (hundecided hpermits).elim

theorem readable_of_visited (h : project.Visited guarded calls later)
    (hreadable : project.metadata.Readable) : later.metadata.Readable := by
  induction h with
  | none => exact hreadable
  | next _ hpass ih => exact readable_of_reconcile hpass ih

/-- Nor do any number of them. -/
theorem stalled_of_visited (h : project.Visited true calls later)
    (hunreadable : ¬project.metadata.Readable) : Stalled project calls later := by
  induction h with
  | none => exact ⟨rfl, rfl, rfl, rfl, List.forall_mem_nil _⟩
  | next _ hpass ih =>
      refine ih.trans (stalled_of_reconcile hpass ?_)
      rw [ih.metadata_eq]
      exact hunreadable

/-- Where no role is visible protection stands aside, unless it is on and the record cannot be
read.  No pass of the operator leads there, and no number of protected passes leads back. -/
theorem permitted_of_bare_iff_readable (guarded : Bool) (project : Project) :
    (∀ remote : List Role, (∀ role ∈ remote, role.arn = "") →
        BareVerdict guarded project (permitsProject guarded project remote)) ∧
      ∀ (calls : List Exchange) (later : Project), project.Visited guarded calls later →
        (project.metadata.Readable → later.metadata.Readable) ∧
          (guarded = true → ¬project.metadata.Readable → Stalled project calls later ∧
            ∀ remote : List Role, ∃ fault,
              permitsProject true later remote = .error (.malformedLastApplied fault)) := by
  refine ⟨fun remote hbare => bareVerdict hbare guarded project, fun calls later hvisited =>
    ⟨readable_of_visited hvisited, ?_⟩⟩
  rintro rfl hunreadable
  have hstalled := stalled_of_visited hvisited hunreadable
  obtain ⟨fault, happlied⟩ := Metadata.not_readable_iff.mp hunreadable
  refine ⟨hstalled, fun remote => ⟨fault, permitsProject_of_unreadable ?_ remote⟩⟩
  rw [hstalled.metadata_eq]
  exact happlied

/-- A project whose record is cut off after the first bracket. -/
def garbled : Project where
  metadata := (Metadata.new "garbled").annotate lastAppliedName "["
  spec := { name := "garbled", accessRoles := [], integrations := [⟨"AWS", "arn:1"⟩] }
  status := { id := "p", conditions := .empty, integrations := [] }

theorem applied_garbled : garbled.metadata.applied ProjectSpec.codec =
    .error ⟨.endInList, some ⟨1, 1⟩⟩ := by
  cbv

/-- In a cloud where a role waits for it, the project stays undecided over two passes. -/
theorem stalled_garbled :
    (∀ role ∈ waitingCloud.rolesOf "p", role.arn = "") ∧
      permitsProject true garbled (waitingCloud.rolesOf "p") =
        .error (.malformedLastApplied ⟨.endInList, some ⟨1, 1⟩⟩) ∧
      ∃ calls later, garbled.Visited true calls later ∧ Stalled garbled calls later := by
  have hbare : ∀ role ∈ waitingCloud.rolesOf "p", role.arn = "" := by decide +kernel
  have hunreadable : ¬garbled.metadata.Readable :=
    Metadata.not_readable_iff.mpr ⟨_, applied_garbled⟩
  obtain ⟨first, hfirst, -⟩ := execution_run (garbled.reconcile creationTime true) waitingCloud
  generalize waitingCloud.run (garbled.reconcile creationTime true) = ran at hfirst
  obtain ⟨second, hsecond, -⟩ := execution_run (ran.1.resource.reconcile creationTime true) ran.2
  have hvisited := (Visited.none.next hfirst).next hsecond
  obtain ⟨hverdict, hpasses⟩ := permitted_of_bare_iff_readable true garbled
  refine ⟨hbare, ?_, _, _, hvisited, ((hpasses _ _ hvisited).2 rfl hunreadable).1⟩
  exact ((hverdict _ hbare).undecided_iff _).mpr ⟨rfl, _, applied_garbled, rfl⟩

/-- So protection does not always stand aside where there is nothing to protect. -/
theorem not_forall_bare_permitted :
    ¬∀ (guarded : Bool) (project : Project) (remote : List Role),
      (∀ role ∈ remote, role.arn = "") → permitsProject guarded project remote = .ok true := by
  intro h
  have hpermitted := h true garbled [] (List.forall_mem_nil _)
  rw [permitsProject_of_unreadable applied_garbled] at hpermitted
  cases hpermitted

end Project

end CloudSteward
