import CloudSteward.Proofs.Cloud.Endpoints
import CloudSteward.Proofs.Endpoints.Pass
import Mathlib.Logic.Relation

/-!
# Passes over endpoints converge

A repeated id makes a pass fail half way: the second creation of it is refused, and the
second deletion finds nothing.  Still every call that changes the cloud brings it nearer to
what is declared, since it takes one id off the `backlog` and puts none on it
(`Moved.backlog_succ`).  A call that fails changes nothing, and then what it asks for is
the case already, so after every attempt, failed or not, the call is `Done`, and it stays
done, because a declared id is never deleted and an undeclared one never created.

No call of the agenda is done when the pass begins.  So a pass with anything to do takes at
least one id off the backlog, even if it fails behind its first call; and a pass that does not
fail has done everything, and leaves nothing to do.
-/

namespace CloudSteward.Endpoints

open MemoryCloud

variable {project id : String} {desired listing before after earlier : List Endpoint}

/-! ## What is left to do -/

/-- How many declared ids are not listed, and how many listed ones are not declared. -/
def backlog (desired listing : List Endpoint) : Nat :=
  (idsOf desired \ idsOf listing).card + ((idsOf listing).erase "" \ idsOf desired).card

/-- One change to the listed endpoints that brings them nearer to the declared ones. -/
inductive Moved (desired listing : List Endpoint) : List Endpoint → Prop where
  | created {endpoint : Endpoint} : endpoint ∈ desired → endpoint.endpointId ≠ "" →
      endpoint.endpointId ∉ idsOf listing → Moved desired listing (listing ++ [endpoint])
  | deleted {id : String} : id ≠ "" → id ∉ idsOf desired → id ∈ idsOf listing →
      Moved desired listing (listing.filter fun endpoint => endpoint.endpointId ≠ id)

theorem Moved.backlog_succ (h : Moved desired before after) :
    backlog desired after + 1 = backlog desired before := by
  unfold backlog
  cases h with
  | @created endpoint hdesired hid hfresh =>
      have hdeclared : endpoint.endpointId ∈ idsOf desired :=
        mem_idsOf_iff.mpr ⟨endpoint, hdesired, rfl⟩
      have hmissing : idsOf desired \ insert endpoint.endpointId (idsOf before) =
          (idsOf desired \ idsOf before).erase endpoint.endpointId := by
        rw [Finset.sdiff_insert]
      have hundeclared : (insert endpoint.endpointId (idsOf before)).erase "" \ idsOf desired =
          (idsOf before).erase "" \ idsOf desired := by
        rw [Finset.erase_insert_of_ne hid, Finset.insert_sdiff_of_mem _ hdeclared]
      have hcard := Finset.card_erase_add_one (Finset.mem_sdiff.mpr ⟨hdeclared, hfresh⟩)
      rw [idsOf_append_singleton, hmissing, hundeclared, Nat.add_right_comm, hcard]
  | @deleted id hid hundeclared hlisted =>
      have hmissing : idsOf desired \ (idsOf before).erase id = idsOf desired \ idsOf before := by
        refine Finset.ext fun other => ?_
        rw [Finset.mem_sdiff, Finset.mem_sdiff, Finset.mem_erase, not_and]
        refine and_congr_right fun hdesired => ?_
        exact ⟨fun hkept => hkept (ne_of_mem_of_not_mem hdesired hundeclared), fun hout _ => hout⟩
      have hleft : ((idsOf before).erase id).erase "" \ idsOf desired =
          ((idsOf before).erase "" \ idsOf desired).erase id := by
        rw [Finset.erase_right_comm, Finset.erase_sdiff_comm]
      have hmem : id ∈ (idsOf before).erase "" \ idsOf desired :=
        Finset.mem_sdiff.mpr ⟨Finset.mem_erase.mpr ⟨hid, hlisted⟩, hundeclared⟩
      rw [idsOf_filter_ne, hmissing, hleft, Nat.add_assoc, Finset.card_erase_add_one hmem]

/-- Some such changes, one after the other. -/
abbrev Nearer (desired : List Endpoint) : List Endpoint → List Endpoint → Prop :=
  Relation.ReflTransGen (Moved desired)

/-- At least one such change. -/
abbrev StrictlyNearer (desired : List Endpoint) : List Endpoint → List Endpoint → Prop :=
  Relation.TransGen (Moved desired)

theorem Nearer.backlog_le (h : Nearer desired before after) :
    backlog desired after ≤ backlog desired before := by
  induction h with
  | refl => exact Nat.le_refl _
  | tail _ hmoved ih => exact (Nat.le_succ _).trans (hmoved.backlog_succ.le.trans ih)

theorem StrictlyNearer.backlog_lt (h : StrictlyNearer desired before after) :
    backlog desired after < backlog desired before := by
  obtain ⟨between, hnearer, hmoved⟩ := Relation.TransGen.tail'_iff.mp h
  exact hmoved.backlog_succ.le.trans (Nearer.backlog_le hnearer)

/-- A declared id is never deleted. -/
theorem Nearer.listed (h : Nearer desired before after) (hdeclared : id ∈ idsOf desired)
    (hlisted : id ∈ idsOf before) : id ∈ idsOf after := by
  induction h with
  | refl => exact hlisted
  | tail _ hmoved ih =>
      cases hmoved with
      | created =>
          rw [idsOf_append_singleton]
          exact Finset.mem_insert_of_mem ih
      | deleted _ hundeclared _ =>
          rw [idsOf_filter_ne]
          exact Finset.mem_erase.mpr ⟨ne_of_mem_of_not_mem hdeclared hundeclared, ih⟩

/-- An undeclared id is never created. -/
theorem Nearer.unlisted (h : Nearer desired before after) (hundeclared : id ∉ idsOf desired)
    (hfresh : id ∉ idsOf before) : id ∉ idsOf after := by
  induction h with
  | refl => exact hfresh
  | tail _ hmoved ih =>
      cases hmoved with
      | @created endpoint hdesired _ _ =>
          have hne : endpoint.endpointId ≠ id :=
            ne_of_mem_of_not_mem (mem_idsOf_iff.mpr ⟨endpoint, hdesired, rfl⟩) hundeclared
          rw [idsOf_append_singleton, Finset.mem_insert, not_or]
          exact ⟨hne.symm, ih⟩
      | deleted =>
          rw [idsOf_filter_ne]
          exact fun hmem => ih (Finset.mem_of_mem_erase hmem)

/-- An endpoint stays if it has no id, or one that is declared and was listed. -/
def Stays (desired listing : List Endpoint) (endpoint : Endpoint) : Prop :=
  endpoint.endpointId = "" ∨ endpoint.endpointId ∈ idsOf desired ∩ idsOf listing

instance (desired listing : List Endpoint) : DecidablePred (Stays desired listing) :=
  fun _ => inferInstanceAs (Decidable (_ ∨ _))

/-- The endpoints that stay are left as they are, and in their order. -/
theorem Nearer.filter_stays (h : Nearer desired before after)
    (hlisted : idsOf desired ∩ idsOf earlier ⊆ idsOf before) :
    after.filter (Stays desired earlier) = before.filter (Stays desired earlier) := by
  induction h with
  | refl => rfl
  | @tail between last hnearer hmoved ih =>
      rw [← ih]
      cases hmoved with
      | @created endpoint _ hid hfresh =>
          have hnew : ¬Stays desired earlier endpoint := by
            rintro (hempty | hmem)
            · exact hid hempty
            · exact hfresh (Nearer.listed hnearer (Finset.mem_inter.mp hmem).1 (hlisted hmem))
          rw [List.filter_append, List.filter_singleton, decide_eq_false hnew, cond_false,
            List.append_nil]
      | @deleted id hid hundeclared _ =>
          rw [List.filter_filter]
          refine List.filter_congr fun endpoint _ => ?_
          have hother : Stays desired earlier endpoint → endpoint.endpointId ≠ id := by
            rintro (hempty | hmem) rfl
            · exact hid hempty
            · exact hundeclared (Finset.mem_inter.mp hmem).1
          rw [Bool.eq_iff_iff, Bool.and_eq_true_iff, decide_eq_true_iff, decide_eq_true_iff]
          exact and_iff_left_of_imp hother

/-! ## The calls of the agenda -/

/-- What a call asks for is the case already. -/
def Done (listing : List Endpoint) : Call → Prop
  | .createEndpoint _ endpoint => endpoint.endpointId ∈ idsOf listing
  | .deleteEndpoint _ id => id ∉ idsOf listing
  | _ => True

/-- A call that may be on the agenda of a pass. -/
inductive Planned (project : String) (desired : List Endpoint) : Call → Prop where
  | creation {endpoint : Endpoint} : endpoint ∈ desired → endpoint.endpointId ≠ "" →
      Planned project desired (.createEndpoint project endpoint)
  | deletion {id : String} : id ≠ "" → id ∉ idsOf desired →
      Planned project desired (.deleteEndpoint project id)

theorem Nearer.done {call : Call} (h : Nearer desired before after)
    (hplanned : Planned project desired call) (hdone : Done before call) : Done after call := by
  cases hplanned with
  | creation hdesired _ => exact h.listed (mem_idsOf_iff.mpr ⟨_, hdesired, rfl⟩) hdone
  | deletion _ hundeclared => exact h.unlisted hundeclared hdone

section Calls

variable {cloud last : MemoryCloud} {call : Call} {calls : List Call} {exchanges : List Exchange}
  {verdict : Except CloudError Unit}

/-- A call changes nothing if it is done, and otherwise it is done afterwards. -/
theorem attempt_of_calm (hcalm : cloud.failures = []) (hplanned : Planned project desired call) :
    (answer call cloud).2.failures = [] ∧
      Done ((answer call cloud).2.endpointsOf project) call ∧
      (Done (cloud.endpointsOf project) call ∧
          (answer call cloud).2.endpointsOf project = cloud.endpointsOf project ∨
        Moved desired (cloud.endpointsOf project) ((answer call cloud).2.endpointsOf project)) := by
  cases hplanned with
  | @creation endpoint hdesired hid =>
      obtain ⟨hstill, hlisting⟩ := creation_of_calm hcalm project endpoint
      by_cases hlisted : endpoint.endpointId ∈ idsOf (cloud.endpointsOf project)
      · rw [if_pos hlisted] at hlisting
        rw [hlisting]
        exact ⟨hstill, hlisted, .inl ⟨hlisted, rfl⟩⟩
      · rw [if_neg hlisted] at hlisting
        rw [hlisting]
        refine ⟨hstill, ?_, .inr (.created hdesired hid hlisted)⟩
        unfold Done
        rw [idsOf_append_singleton]
        exact Finset.mem_insert_self _ _
  | @deletion id hid hundeclared =>
      obtain ⟨hstill, hlisting⟩ := deletion_of_calm hcalm project id
      by_cases hlisted : id ∈ idsOf (cloud.endpointsOf project)
      · rw [if_pos hlisted] at hlisting
        rw [hlisting]
        refine ⟨hstill, ?_, .inr (.deleted hid hundeclared hlisted)⟩
        unfold Done
        rw [idsOf_filter_ne]
        exact Finset.notMem_erase _ _
      · rw [if_neg hlisted] at hlisting
        rw [hlisting]
        exact ⟨hstill, hlisted, .inl ⟨hlisted, rfl⟩⟩

/-- After the first of several calls there are the others. -/
theorem exists_attempt {reply : call.Reply}
    (hreplies : cloud.Replies (⟨call, reply⟩ :: exchanges) last)
    (hcalm : cloud.failures = []) (hplanned : Planned project desired call) :
    ∃ between : MemoryCloud, between.failures = [] ∧ between.Replies exchanges last ∧
      Done (between.endpointsOf project) call ∧
      (Done (cloud.endpointsOf project) call ∧
          between.endpointsOf project = cloud.endpointsOf project ∨
        Moved desired (cloud.endpointsOf project) (between.endpointsOf project)) := by
  cases hreplies with
  | call hanswer hrest =>
      have hattempt := attempt_of_calm hcalm hplanned
      rw [hanswer] at hattempt
      obtain ⟨hstill, hdone, heffect⟩ := hattempt
      exact ⟨_, hstill, hrest, hdone, heffect⟩

/-- Calls of the agenda only bring the endpoints nearer, and if none of them fails, then all
are done. -/
theorem nearer_of_attempted (hattempted : Attempted calls exchanges verdict)
    (hreplies : cloud.Replies exchanges last) (hcalm : cloud.failures = [])
    (hplanned : ∀ call ∈ calls, Planned project desired call) :
    last.failures = [] ∧ Nearer desired (cloud.endpointsOf project) (last.endpointsOf project) ∧
      (verdict = .ok () → ∀ call ∈ calls, Done (last.endpointsOf project) call) := by
  have hnearer {first second : List Endpoint} {call : Call}
      (heffect : Done first call ∧ second = first ∨ Moved desired first second) :
      Nearer desired first second := by
    rcases heffect with ⟨_, rfl⟩ | hmoved
    · exact .refl
    · exact .single hmoved
  induction hattempted generalizing cloud with
  | finished =>
      cases hreplies
      exact ⟨hcalm, .refl, fun _ => List.forall_mem_nil _⟩
  | refused error =>
      obtain ⟨between, hstill, hrest, _, heffect⟩ :=
        exists_attempt hreplies hcalm (hplanned _ List.mem_cons_self)
      cases hrest
      refine ⟨hstill, hnearer heffect, ?_⟩
      rintro ⟨⟩
  | granted reply _ ih =>
      obtain ⟨hfirst, hothers⟩ := List.forall_mem_cons.mp hplanned
      obtain ⟨between, hstill, hrest, hdone, heffect⟩ := exists_attempt hreplies hcalm hfirst
      obtain ⟨hlast, hbehind, hall⟩ := ih hrest hstill hothers
      refine ⟨hlast, (hnearer heffect).trans hbehind, fun hverdict => ?_⟩
      exact List.forall_mem_cons.mpr ⟨Nearer.done hbehind hfirst hdone, hall hverdict⟩

/-- If the first call is not done yet, something changes. -/
theorem strictlyNearer_of_attempted (hattempted : Attempted (call :: calls) exchanges verdict)
    (hreplies : cloud.Replies exchanges last) (hcalm : cloud.failures = [])
    (hplanned : ∀ other ∈ call :: calls, Planned project desired other)
    (hopen : ¬Done (cloud.endpointsOf project) call) :
    StrictlyNearer desired (cloud.endpointsOf project) (last.endpointsOf project) := by
  obtain ⟨hfirst, hothers⟩ := List.forall_mem_cons.mp hplanned
  cases hattempted with
  | refused error =>
      obtain ⟨between, _, hrest, _, heffect⟩ := exists_attempt hreplies hcalm hfirst
      cases hrest
      exact .single (heffect.resolve_left fun hdone => hopen hdone.1)
  | granted reply hbehind =>
      obtain ⟨between, hstill, hrest, _, heffect⟩ := exists_attempt hreplies hcalm hfirst
      obtain ⟨_, hnearer, _⟩ := nearer_of_attempted hbehind hrest hstill hothers
      exact .head' (heffect.resolve_left fun hdone => hopen hdone.1) hnearer

end Calls

/-! ## One pass -/

section Pass

variable {cloud : MemoryCloud} {now : Moment} {conditions : Conditions}
  (hnamed : ∀ endpoint ∈ desired, endpoint.endpointId ≠ "")

theorem mem_missing_iff {endpoint : Endpoint} : endpoint ∈ missing desired listing ↔
    endpoint ∈ desired ∧ (endpoint.endpointId = "" ∨ endpoint.endpointId ∉ idsOf listing) := by
  unfold missing
  rw [List.mem_filter, decide_eq_true_iff, mem_idsOf_iff]
  simp only [not_exists, not_and, ne_eq]

theorem mem_undeclared_iff {listed : Endpoint} : listed ∈ undeclared desired listing ↔
    listed ∈ listing ∧ listed.endpointId ≠ "" ∧ listed.endpointId ∉ idsOf desired := by
  unfold undeclared
  rw [List.mem_filter, decide_eq_true_iff, mem_idsOf_iff]
  simp only [not_exists, not_and, ne_eq]

include hnamed

/-- The agenda holds the calls that may be made and are not done yet. -/
theorem mem_agenda_iff {call : Call} : call ∈ agenda project desired listing ↔
    Planned project desired call ∧ ¬Done listing call := by
  unfold agenda
  rw [List.mem_append, List.mem_map, List.mem_map]
  constructor
  · rintro (⟨endpoint, hmissing, rfl⟩ | ⟨listed, hundeclared, rfl⟩)
    · obtain ⟨hdesired, hfresh⟩ := mem_missing_iff.mp hmissing
      have hid := hnamed endpoint hdesired
      exact ⟨.creation hdesired hid, hfresh.resolve_left hid⟩
    · obtain ⟨hlisted, hid, hother⟩ := mem_undeclared_iff.mp hundeclared
      exact ⟨.deletion hid hother, not_not_intro (mem_idsOf_iff.mpr ⟨listed, hlisted, rfl⟩)⟩
  · rintro ⟨hplanned, hopen⟩
    cases hplanned with
    | @creation endpoint hdesired _ =>
        exact .inl ⟨endpoint, mem_missing_iff.mpr ⟨hdesired, .inr hopen⟩, rfl⟩
    | deletion hid hother =>
        obtain ⟨listed, hlisted, rfl⟩ := mem_idsOf_iff.mp (not_not.mp hopen)
        exact .inr ⟨listed, mem_undeclared_iff.mpr ⟨hlisted, hid, hother⟩, rfl⟩

/-- There is nothing to do exactly if the ids that are listed are those that are declared. -/
theorem agenda_eq_nil_iff :
    agenda project desired listing = [] ↔ (idsOf listing).erase "" = idsOf desired := by
  unfold agenda
  rw [List.append_eq_nil_iff, List.map_eq_nil_iff, List.map_eq_nil_iff]
  constructor
  · rintro ⟨hmissing, hundeclared⟩
    ext id
    rw [Finset.mem_erase]
    constructor
    · rintro ⟨hid, hlisted⟩
      obtain ⟨listed, hmem, rfl⟩ := mem_idsOf_iff.mp hlisted
      by_contra hother
      exact List.not_mem_nil (hundeclared ▸ mem_undeclared_iff.mpr ⟨hmem, hid, hother⟩)
    · intro hdeclared
      obtain ⟨endpoint, hmem, rfl⟩ := mem_idsOf_iff.mp hdeclared
      refine ⟨hnamed endpoint hmem, ?_⟩
      by_contra hfresh
      exact List.not_mem_nil (hmissing ▸ mem_missing_iff.mpr ⟨hmem, .inr hfresh⟩)
  · intro hsame
    constructor
    · refine List.eq_nil_iff_forall_not_mem.mpr fun endpoint hmissing => ?_
      obtain ⟨hdesired, hempty | hfresh⟩ := mem_missing_iff.mp hmissing
      · exact hnamed endpoint hdesired hempty
      · have hmem : endpoint.endpointId ∈ (idsOf listing).erase "" :=
          hsame ▸ mem_idsOf_iff.mpr ⟨endpoint, hdesired, rfl⟩
        exact hfresh (Finset.mem_of_mem_erase hmem)
    · refine List.eq_nil_iff_forall_not_mem.mpr fun listed hundeclared => ?_
      obtain ⟨hlisted, hid, hother⟩ := mem_undeclared_iff.mp hundeclared
      exact hother (hsame ▸ Finset.mem_erase.mpr ⟨hid, mem_idsOf_iff.mpr ⟨listed, hlisted, rfl⟩⟩)

/-- If everything on the agenda is done, then nothing is left to do: what is open afterwards
was open before. -/
theorem agenda_eq_nil_of_done (hnearer : Nearer desired before after)
    (hdone : ∀ call ∈ agenda project desired before, Done after call) :
    agenda project desired after = [] := by
  refine List.eq_nil_iff_forall_not_mem.mpr fun call hcall => ?_
  obtain ⟨hplanned, hopen⟩ := (mem_agenda_iff hnamed).mp hcall
  have hearlier : ¬Done before call := fun hearly => hopen (Nearer.done hnearer hplanned hearly)
  exact hopen (hdone call ((mem_agenda_iff hnamed).mpr ⟨hplanned, hearlier⟩))

omit hnamed in
/-- Where no failure is ordered, a pass lists the endpoints and works through its agenda. -/
theorem exists_attempted_of_calm (now : Moment) (project : String) (desired : List Endpoint)
    (conditions : Conditions) (hcalm : cloud.failures = []) :
    ∃ exchanges verdict,
      Attempted (agenda project desired (cloud.endpointsOf project)) exchanges verdict ∧
      Replies { cloud with log := cloud.log ++ [.listEndpoints] } exchanges
        (cloud.run (ensure now project desired conditions)).2 ∧
      (cloud.run (ensure now project desired conditions)).1.1 = concluded verdict := by
  obtain ⟨exchanges, htrace, hreplies⟩ :=
    exists_replies_of_run (ensure now project desired conditions) cloud
  generalize cloud.run (ensure now project desired conditions) = ended at htrace hreplies ⊢
  obtain ⟨result, hsync, hended⟩ := Program.trace_map_iff.mp htrace
  have hlisting : answer (.listEndpoints project) cloud =
      (.ok (cloud.endpointsOf project), { cloud with log := cloud.log ++ [.listEndpoints] }) :=
    answer_of_calm hcalm _
  rcases trace_sync_iff.mp hsync with ⟨error, rfl, _⟩ | ⟨remote, rest, verdict, rfl, hrest, rfl⟩
  · cases hreplies with
    | call hanswer _ =>
        rw [hlisting] at hanswer
        cases hanswer
  · cases hreplies with
    | call hanswer hbehind =>
        obtain ⟨hreply, rfl⟩ := Prod.mk.inj (hlisting.symm.trans hanswer)
        obtain rfl := Except.ok.inj hreply
        exact ⟨rest, verdict, hrest, hbehind, congrArg Prod.fst hended⟩

/-- What a pass during which nothing is ordered makes of the cloud. -/
structure Worked (project : String) (desired : List Endpoint) (cloud after : MemoryCloud)
    (result : PassResult) : Prop where
  calm : after.failures = []
  nearer : Nearer desired (cloud.endpointsOf project) (after.endpointsOf project)
  strictly : agenda project desired (cloud.endpointsOf project) ≠ [] →
    StrictlyNearer desired (cloud.endpointsOf project) (after.endpointsOf project)
  idle : agenda project desired (cloud.endpointsOf project) = [] →
    result.isOk = true ∧ after = { cloud with log := cloud.log ++ [.listEndpoints] }
  finished : result.isOk = true → agenda project desired (after.endpointsOf project) = []

theorem worked_of_calm (hcalm : cloud.failures = []) :
    Worked project desired cloud (cloud.run (ensure now project desired conditions)).2
      (cloud.run (ensure now project desired conditions)).1.1 := by
  obtain ⟨exchanges, verdict, hattempted, hreplies, hresult⟩ :=
    exists_attempted_of_calm now project desired conditions hcalm
  have hplanned : ∀ call ∈ agenda project desired (cloud.endpointsOf project),
      Planned project desired call := fun call hcall => ((mem_agenda_iff hnamed).mp hcall).1
  obtain ⟨hlast, hnearer, hdone⟩ := nearer_of_attempted hattempted hreplies hcalm hplanned
  rw [hresult]
  refine {
    calm := hlast
    nearer := hnearer
    strictly := fun hsome => ?_
    idle := fun hnone => ?_
    finished := fun hok => ?_ }
  · cases hagenda : agenda project desired (cloud.endpointsOf project) with
    | nil => exact absurd hagenda hsome
    | cons call calls =>
        have hopen : ¬Done (cloud.endpointsOf project) call :=
          ((mem_agenda_iff hnamed).mp (hagenda ▸ List.mem_cons_self)).2
        rw [hagenda] at hattempted hplanned
        have hstrictly := strictlyNearer_of_attempted hattempted hreplies hcalm hplanned hopen
        exact hstrictly
  · rw [hnone] at hattempted
    obtain ⟨rfl, rfl⟩ := Attempted.nil_iff.mp hattempted
    exact ⟨rfl, hreplies.eq_of_nil⟩
  · rcases verdict with error | ⟨⟩
    · cases hok
    · exact agenda_eq_nil_of_done hnamed hnearer (hdone rfl)

end Pass

/-! ## Pass after pass -/

section Passes

variable (now : Nat → Moment) (conditions : Nat → Conditions) (project : String)
  (desired : List Endpoint) (cloud : MemoryCloud)

/-- The cloud after so many passes, each at its own moment and over its own conditions. -/
def cloudAfter : Nat → MemoryCloud
  | 0 => cloud
  | count + 1 =>
      ((cloudAfter count).run (ensure (now count) project desired (conditions count))).2

/-- The endpoints that are listed after so many passes. -/
def listedAfter (count : Nat) : List Endpoint :=
  (cloudAfter now conditions project desired cloud count).endpointsOf project

/-- The result of the pass that follows so many others. -/
def resultAfter (count : Nat) : PassResult :=
  ((cloudAfter now conditions project desired cloud count).run
    (ensure (now count) project desired (conditions count))).1.1

variable {desired cloud}

section Calm

variable (hcalm : cloud.failures = []) (hnamed : ∀ endpoint ∈ desired, endpoint.endpointId ≠ "")

include hcalm hnamed

theorem worked_after (count : Nat) :
    Worked project desired (cloudAfter now conditions project desired cloud count)
      (cloudAfter now conditions project desired cloud (count + 1))
      (resultAfter now conditions project desired cloud count) := by
  induction count with
  | zero => exact worked_of_calm hnamed hcalm
  | succ count ih => exact worked_of_calm hnamed ih.calm

/-- As long as no pass is fine, each takes something off the backlog. -/
theorem backlog_listedAfter {count : Nat}
    (hfailing : ∀ earlier < count,
      (resultAfter now conditions project desired cloud earlier).isOk = false) :
    backlog desired (listedAfter now conditions project desired cloud count) + count ≤
      backlog desired (cloud.endpointsOf project) := by
  induction count with
  | zero => exact Nat.le_refl _
  | succ count ih =>
      have hworked := worked_after now conditions project hcalm hnamed count
      have hearlier := ih fun earlier hlt => hfailing earlier (Nat.lt_succ_of_lt hlt)
      have hbusy : agenda project desired
          (listedAfter now conditions project desired cloud count) ≠ [] := by
        intro hnone
        have hfine := (hworked.idle hnone).1
        rw [hfailing count (Nat.lt_succ_self count)] at hfine
        cases hfine
      have hlt : backlog desired (listedAfter now conditions project desired cloud (count + 1)) <
          backlog desired (listedAfter now conditions project desired cloud count) :=
        StrictlyNearer.backlog_lt (hworked.strictly hbusy)
      omega

theorem nearer_listedAfter {earlier later : Nat} (hle : earlier ≤ later) :
    Nearer desired (listedAfter now conditions project desired cloud earlier)
      (listedAfter now conditions project desired cloud later) := by
  induction later, hle using Nat.le_induction with
  | base => exact .refl
  | succ later _ ih =>
      exact ih.trans (worked_after now conditions project hcalm hnamed later).nearer

/-- Behind a pass that was fine there is never anything to do again. -/
theorem agenda_listedAfter {count later : Nat}
    (hfine : (resultAfter now conditions project desired cloud count).isOk = true)
    (hlt : count < later) :
    agenda project desired (listedAfter now conditions project desired cloud later) = [] := by
  induction later, hlt using Nat.le_induction with
  | base => exact (worked_after now conditions project hcalm hnamed count).finished hfine
  | succ later _ ih =>
      have hworked := worked_after now conditions project hcalm hnamed later
      exact hworked.finished (hworked.idle ih).1

/-- Where no failure is ordered and all declared endpoints have an id, some pass is fine, and
before it there are at most as many as the backlog counts.  After a pass that is fine, the
ids that are listed are those that are declared; the endpoints that were listed and declared
at any time before, and those without an id, are as they were; and all later passes are fine
and only list. -/
theorem passes_converge :
    (∃ count ≤ backlog desired (cloud.endpointsOf project),
        (resultAfter now conditions project desired cloud count).isOk = true) ∧
      ∀ count, (resultAfter now conditions project desired cloud count).isOk = true →
        (idsOf (listedAfter now conditions project desired cloud (count + 1))).erase "" =
            idsOf desired ∧
          (∀ earlier ≤ count, ∀ listing,
            listing = listedAfter now conditions project desired cloud earlier →
              (listedAfter now conditions project desired cloud (count + 1)).filter
                (Stays desired listing) = listing.filter (Stays desired listing)) ∧
          ∀ later > count, (resultAfter now conditions project desired cloud later).isOk = true ∧
            cloudAfter now conditions project desired cloud (later + 1) =
              { cloudAfter now conditions project desired cloud later with
                log := (cloudAfter now conditions project desired cloud later).log ++
                  [.listEndpoints] } := by
  constructor
  · by_contra hnone
    have hfailing : ∀ earlier < backlog desired (cloud.endpointsOf project) + 1,
        (resultAfter now conditions project desired cloud earlier).isOk = false :=
      fun earlier hlt => Bool.eq_false_iff.mpr fun hok =>
        hnone ⟨earlier, Nat.le_of_lt_succ hlt, hok⟩
    have hbound := backlog_listedAfter now conditions project hcalm hnamed hfailing
    omega
  · intro count hfine
    refine ⟨?_, ?_, fun later hlt => ?_⟩
    · exact (agenda_eq_nil_iff hnamed).mp (agenda_listedAfter now conditions project hcalm hnamed
        hfine (Nat.lt_succ_self count))
    · rintro earlier hle listing rfl
      exact Nearer.filter_stays (nearer_listedAfter now conditions project hcalm hnamed
        (hle.trans (Nat.le_succ count))) Finset.inter_subset_right
    · exact (worked_after now conditions project hcalm hnamed later).idle
        (agenda_listedAfter now conditions project hcalm hnamed hfine hlt)

end Calm

end Passes

/-- One endpoint is declared twice, and another one is listed already. -/
def repeatedDeclared : List Endpoint :=
  [⟨"new", "AWS", "DATA_LAKE"⟩, ⟨"kept", "AWS", "DATA_LAKE"⟩, ⟨"new", "AZURE", "DATA_LAKE"⟩]

/-- A cloud that lists an id twice, and an endpoint without an id. -/
def repeatedCloud : MemoryCloud :=
  { MemoryCloud.empty with
    endpoints := [("p", ⟨"old", "AWS", "DATA_LAKE"⟩), ("p", ⟨"", "AWS", "DATA_LAKE"⟩),
      ("p", ⟨"kept", "GCP", "DATA_LAKE"⟩), ("p", ⟨"old", "AZURE", "DATA_LAKE"⟩)] }

/-- The first pass stumbles over the second creation and the second one over the second
deletion, so that the third is the first that is fine: the bound is reached. -/
theorem passes_converge_repeated :
    backlog repeatedDeclared (repeatedCloud.endpointsOf "p") = 2 ∧
      (∀ count < 2, (resultAfter (fun _ => creationTime) (fun _ => .empty) "p" repeatedDeclared
        repeatedCloud count).isOk = false) ∧
      ∃ count ≤ 2, (resultAfter (fun _ => creationTime) (fun _ => .empty) "p" repeatedDeclared
        repeatedCloud count).isOk = true := by
  have hbacklog : backlog repeatedDeclared (repeatedCloud.endpointsOf "p") = 2 := by decide
  have hnamed : ∀ endpoint ∈ repeatedDeclared, endpoint.endpointId ≠ "" := by decide
  have hfirst : ∀ count < 2, (resultAfter (fun _ => creationTime) (fun _ => .empty) "p"
      repeatedDeclared repeatedCloud count).isOk = false := by
    decide +kernel
  have hcalm : repeatedCloud.failures = [] := rfl
  obtain ⟨⟨count, hle, hfine⟩, _⟩ :=
    passes_converge (fun _ => creationTime) (fun _ => .empty) "p" hcalm hnamed
  exact ⟨hbacklog, hfirst, count, hbacklog ▸ hle, hfine⟩

end CloudSteward.Endpoints
