import CloudSteward.Proofs.Integrations.Addressing
import CloudSteward.Proofs.Integrations.Report

/-!
# The life of a status

Linking begins a status, and from then on it changes by steps only: `Life` is any number of
steps with any replies.  What a single step may do is settled by the phase (`Ruled`).  What
holds at all times is carried by one invariant, `Coherent`, which ties the phase to the error,
to the date and to the role that the status shows: the one that it was linked to, until a call
gives back another (`lastShown?`).  It holds at the beginning (`Begun.coherent`) and is kept by
every step (`Coherent.step`), as a failing call touches nothing but the phase and the error.

Whether a status can come to an end is settled at the beginning: what stands for a declared
integration is kept by every step, and a removal stays one until the cloud agrees to it.
`lawful_of_life` puts all of this together.
-/

namespace CloudSteward.Integrations

open Linking

variable {desired : List Integration} {remote : List Role} {index : Nat} {project : String}
  {start status : Status} {output after : Option Status} {last linked : Option Role}
  {exchanges own : List Exchange}

/-! ## One step -/

theorem Stepped.of_rest (h : Stepped project status own after) (hmove : move status = .rest) :
    own = [] ∧ after = some status := by
  cases h with
  | rested => exact ⟨rfl, rfl⟩
  | created _ hother | authorized _ hother | removed _ hother => cases hmove.symm.trans hother

/-- A step that makes a call makes no other. -/
theorem Stepped.exists_reply (h : Stepped project status own after) {call : Call}
    (hcall : callOf? project status = some call) : ∃ reply, own = [⟨call, reply⟩] := by
  have hquestions : own.map Program.Exchange.question = [call] := by
    rw [h.questions_eq, hcall, Option.toList_some]
  obtain ⟨⟨question, reply⟩, rfl, rfl⟩ := List.map_eq_singleton_iff.mp hquestions
  exact ⟨reply, rfl⟩

theorem Ended.of_failed (h : Ended status own after)
    (hfailed : ∃ exchange ∈ own, exchange.failed = true) :
    ∃ phase error, phase.isFailed = true ∧ after = some { status with phase, error } := by
  obtain ⟨exchange, hmem, hfailed⟩ := hfailed
  cases h with
  | rested => cases hmem
  | linked role _ hreturned =>
      obtain rfl := List.mem_singleton.mp hmem
      cases hfailed.symm.trans (failed_of_returned hreturned)
  | failed phase error _ hphase => exact ⟨phase, error.text, hphase, rfl⟩
  | removed _ hremoves =>
      obtain rfl := List.mem_singleton.mp hmem
      cases hfailed.symm.trans hremoves.2

theorem Ended.eq_none_iff (h : Ended status own after) :
    after = none ↔ ∃ exchange ∈ own, Removes exchange := by
  cases h with
  | rested => simp
  | linked role _ hreturned => simp [not_removes_of_returned hreturned]
  | failed phase error hfailed => simp [Removes, hfailed]
  | removed _ hremoves => simp [hremoves]

/-- What a step does in each phase. -/
structure Ruled (project : String) (status : Status) (own : List Exchange)
    (after : Option Status) : Prop where
  rests : status.phase = .authorized ∨
      (status.arn = "" ∧ (status.phase = .created ∨ status.phase = .failedToAuthorize)) →
    own = [] ∧ after = some status
  creates : status.phase = .new ∨ status.phase = .failedToCreate →
    ∃ reply, own = [⟨.createRole project status.provider, reply⟩]
  authorizes : status.arn ≠ "" ∧
      (status.phase = .created ∨ status.phase = .failedToAuthorize) →
    ∃ reply, own = [⟨.authorizeRole project status.roleId status.provider status.arn, reply⟩]
  removes : status.phase.isRemoval = true →
    ∃ reply, own = [⟨.deauthorizeRole project status.roleId status.provider, reply⟩]
  fails : (∃ exchange ∈ own, exchange.failed = true) →
    ∃ phase error, phase.isFailed = true ∧ after = some { status with phase, error }
  ends_iff : after = none ↔ ∃ exchange ∈ own, Removes exchange

theorem Stepped.ruled (h : Stepped project status own after) :
    Ruled project status own after where
  rests hphase := h.of_rest (move_eq_rest_iff.mpr hphase)
  creates hphase := h.exists_reply (by rw [callOf?, move_eq_create_iff.mpr hphase])
  authorizes hphase := h.exists_reply (by rw [callOf?, move_eq_authorize_iff.mpr hphase])
  removes hphase := h.exists_reply (by rw [callOf?, move_eq_remove_iff.mpr hphase])
  fails := h.ended.of_failed
  ends_iff := h.ended.eq_none_iff

/-- The `arn` stays the declared one, also when the cloud gives back a role with another. -/
theorem Ended.keeps_name (h : Ended status own after) :
    ∀ next ∈ after, next.provider = status.provider ∧ next.arn = status.arn := by
  intro next hnext
  cases h with
  | rested | linked | failed =>
      obtain rfl := Option.mem_some_iff.mp hnext
      exact ⟨rfl, rfl⟩
  | removed => cases hnext

theorem Ended.keeps_removal (h : Ended status own after)
    (hphase : status.phase.isRemoval = true) : ∀ next ∈ after, next.phase.isRemoval = true := by
  have hmove := move_eq_remove_iff.mpr hphase
  intro next hnext
  cases h with
  | rested hrest => cases hmove.symm.trans hrest
  | linked role hne => exact absurd hmove hne
  | failed phase error _ _ hremoval =>
      obtain rfl := Option.mem_some_iff.mp hnext
      exact hremoval.mpr hmove
  | removed => cases hnext

/-! ## The role that a status shows -/

/-- The role that was given back last, or else the one that the status was linked to. -/
def lastShown? (linked : Option Role) (exchanges : List Exchange) : Option Role :=
  (exchanges.filterMap returned?).getLast?.or linked

theorem lastShown?_append (linked : Option Role) (exchanges own : List Exchange) :
    lastShown? linked (exchanges ++ own) = lastShown? (lastShown? linked exchanges) own := by
  unfold lastShown?
  rw [List.filterMap_append, List.getLast?_append, Option.or_assoc]

theorem lastShown?_of_returned {exchange : Exchange} {role : Role}
    (h : returned? exchange = some role) : lastShown? linked [exchange] = some role := by
  rw [lastShown?, List.filterMap_cons_some h]
  rfl

theorem lastShown?_of_failed {exchange : Exchange} (h : exchange.failed = true) :
    lastShown? linked [exchange] = linked := by
  rw [lastShown?, List.filterMap_cons_none (returned?_of_failed h)]
  rfl

/-- What the cloud assigned to a role, as a status repeats it. -/
structure Reflects (status : Status) (role : Role) : Prop where
  roleId_eq : status.roleId = role.roleId
  accountArn_eq : status.accountArn = role.accountArn
  externalId_eq : status.externalId = role.externalId
  created_eq : status.created = role.created
  authorized_eq : status.authorized = role.authorized

/-- How the phase of a status goes with its error, its date and the last role. -/
structure Coherent (last : Option Role) (status : Status) : Prop where
  error_iff : status.error ≠ "" ↔ status.phase.isFailed = true
  reflects : ∀ role ∈ last, Reflects status role
  authorized : status.phase = .authorized → last.isSome = true ∧ status.authorized.isSome = true

theorem reflects_linked (status : Status) (role : Role) : Reflects (status.linked role) role :=
  ⟨rfl, rfl, rfl, rfl, rfl⟩

theorem coherent_linked (status : Status) (role : Role) :
    Coherent (some role) (status.linked role) where
  error_iff := by
    refine iff_of_false (not_not_intro rfl) ?_
    unfold Status.linked
    cases role.isAuthorized <;> exact Bool.false_ne_true
  reflects := by
    rintro _ ⟨⟩
    exact reflects_linked status role
  authorized hphase := by
    refine ⟨rfl, ?_⟩
    by_cases hdate : role.isAuthorized = true
    · exact hdate
    · simp [Status.linked, hdate] at hphase

theorem Coherent.failed (h : Coherent last status) {phase : Phase} (hphase : phase.isFailed = true)
    (error : CloudError) : Coherent last (status.failed phase error.text) where
  error_iff := iff_of_true error.text_ne_empty hphase
  reflects role hrole := by
    obtain ⟨hid, haccount, hexternal, hcreated, hauthorized⟩ := h.reflects role hrole
    exact ⟨hid, haccount, hexternal, hcreated, hauthorized⟩
  authorized hauthorized := by
    obtain rfl : phase = .authorized := hauthorized
    cases hphase

/-- A role that is given back replaces the last one, and a failure leaves it. -/
theorem Coherent.step (h : Coherent last status) (hended : Ended status own after) :
    ∀ next ∈ after, Coherent (lastShown? last own) next := by
  intro next hnext
  cases hended with
  | rested =>
      obtain rfl := Option.mem_some_iff.mp hnext
      exact h
  | linked role _ hreturned =>
      obtain rfl := Option.mem_some_iff.mp hnext
      rw [lastShown?_of_returned hreturned]
      exact coherent_linked status role
  | failed phase error hfailed hphase =>
      obtain rfl := Option.mem_some_iff.mp hnext
      rw [lastShown?_of_failed hfailed]
      exact h.failed hphase error
  | removed => cases hnext

/-! ## Beginnings -/

/-- How linking begins a status: nothing is known of a declared integration, or the status was
linked to a role last, or a role is to be removed. -/
inductive Begun (desired : List Integration) (remote : List Role) :
    Status → Option Role → Prop where
  | fresh {integration : Integration} : integration ∈ desired →
      Begun desired remote (declare integration) none
  | linked {integration : Integration} {role : Role} (earlier : Status) : integration ∈ desired →
      role ∈ remote → Eligible integration role →
        Begun desired remote (earlier.linked role) (some role)
  | removal {role : Role} : role ∈ remote → Begun desired remote (Status.removal role) (some role)

theorem exists_begun (h : start ∈ statuses desired remote) :
    ∃ linked, Begun desired remote start linked := by
  rcases mem_statuses_cases h with hplaced | ⟨role, hrole, rfl⟩
  · obtain ⟨integration, hdesired, _, _, rfl | ⟨role, hrole, heligible, earlier, rfl⟩⟩ :=
      exists_link_of_mem_placed hplaced
    · exact ⟨none, .fresh hdesired⟩
    · exact ⟨some role, .linked earlier hdesired hrole heligible⟩
  · exact ⟨some role, .removal (mem_surplus hrole).1⟩

theorem Begun.coherent (h : Begun desired remote start linked) : Coherent linked start := by
  cases h with
  | fresh => exact ⟨iff_of_false (not_not_intro rfl) Bool.false_ne_true, by simp, by rintro ⟨⟩⟩
  | linked earlier => exact coherent_linked earlier _
  | @removal role =>
      obtain ⟨hid, haccount, hexternal, hcreated, hauthorized⟩ :=
        reflects_linked (.new role.provider role.arn) role
      refine ⟨iff_of_false (not_not_intro rfl) Bool.false_ne_true, ?_, by rintro ⟨⟩⟩
      rintro _ ⟨⟩
      exact ⟨hid, haccount, hexternal, hcreated, hauthorized⟩

/-! ## Lives -/

/-- The calls of any number of steps, with the replies, and what is left of the status. -/
inductive Life (start : Status) : List Exchange → Option Status → Prop where
  | start : Life start [] (some start)
  | step {exchanges own : List Exchange} {status : Status} {output : Option Status}
      (project : String) : Life start exchanges (some status) →
      (step project status).Trace own output → Life start (exchanges ++ own) output

/-- What holds at the beginning and is kept by every step holds at all times. -/
theorem Life.invariant (Holds : List Exchange → Option Status → Prop)
    (hstart : Holds [] (some start))
    (hstep : ∀ {project : String} {before own : List Exchange} {status : Status}
      {after : Option Status}, Holds before (some status) → Stepped project status own after →
        Holds (before ++ own) after)
    (h : Life start exchanges output) : Holds exchanges output := by
  induction h with
  | start => exact hstart
  | step project _ htrace ih => exact hstep ih (trace_step htrace)

theorem Life.keeps_name (h : Life start exchanges output) :
    ∀ status ∈ output, status.provider = start.provider ∧ status.arn = start.arn := by
  refine h.invariant (fun _ output =>
    ∀ status ∈ output, status.provider = start.provider ∧ status.arn = start.arn) ?_ ?_
  · rintro _ ⟨⟩
    exact ⟨rfl, rfl⟩
  · intro _ _ _ status _ hbefore hstep next hnext
    obtain ⟨hprovider, harn⟩ := hbefore status rfl
    obtain ⟨hsame, hkept⟩ := hstep.ended.keeps_name next hnext
    exact ⟨hsame.trans hprovider, hkept.trans harn⟩

theorem Life.exists_standsFor (h : Life start exchanges output) {integration : Integration}
    (hstands : StandsFor integration start) :
    ∃ status, output = some status ∧ StandsFor integration status := by
  refine h.invariant (fun _ output =>
    ∃ status, output = some status ∧ StandsFor integration status) ⟨start, rfl, hstands⟩ ?_
  rintro _ _ _ _ _ ⟨status, ⟨⟩, hbefore⟩ hstep
  exact hstep.exists_standsFor hbefore

theorem Life.keeps_removal (h : Life start exchanges output)
    (hphase : start.phase.isRemoval = true) :
    ∀ status ∈ output, status.phase.isRemoval = true := by
  refine h.invariant (fun _ output =>
    ∀ status ∈ output, status.phase.isRemoval = true) ?_ ?_
  · rintro _ ⟨⟩
    exact hphase
  · intro _ _ _ status _ hbefore hstep
    exact hstep.ended.keeps_removal (hbefore status rfl)

theorem Life.eq_none_iff (h : Life start exchanges output) :
    output = none ↔ ∃ exchange ∈ exchanges, Removes exchange := by
  refine h.invariant (fun exchanges output =>
    output = none ↔ ∃ exchange ∈ exchanges, Removes exchange) (by simp) ?_
  intro _ before own _ _ hbefore hstep
  -- A step is made only by a status that is still there, so nothing was removed before.
  have hnone : ¬∃ exchange ∈ before, Removes exchange := by simpa using hbefore
  simp only [List.mem_append, or_and_right, exists_or, hnone, false_or]
  exact hstep.ended.eq_none_iff

theorem Life.coherent (h : Life start exchanges output) (hstart : Coherent linked start) :
    ∀ status ∈ output, Coherent (lastShown? linked exchanges) status := by
  refine h.invariant (fun exchanges output =>
    ∀ status ∈ output, Coherent (lastShown? linked exchanges) status) ?_ ?_
  · rintro _ ⟨⟩
    exact hstart
  · intro _ before own status _ hbefore hstep
    rw [lastShown?_append]
    exact (hbefore status rfl).step hstep.ended

theorem Life.of_authorized (h : Life start exchanges output) (hphase : start.phase = .authorized) :
    exchanges = [] ∧ output = some start := by
  refine h.invariant (fun exchanges output => exchanges = [] ∧ output = some start)
    ⟨rfl, rfl⟩ ?_
  rintro _ _ _ _ _ ⟨rfl, ⟨⟩⟩ hstep
  exact hstep.ruled.rests (.inl hphase)

/-! ## The laws of a life -/

/-- What is true of a status at any time after linking. -/
structure Lawful (desired : List Integration) (remote : List Role) (index : Nat) (start : Status)
    (exchanges : List Exchange) (output : Option Status) : Prop where
  keeps_name : ∀ status ∈ output, status.provider = start.provider ∧ status.arn = start.arn
  /-- What stands for a declared integration does so for ever. -/
  declared : ∀ integration, desired[index]? = some integration →
    ∃ status, output = some status ∧ StandsFor integration status
  /-- Behind the declared integrations come the removals. -/
  removal : desired.length ≤ index → ∀ status ∈ output, status.phase.isRemoval = true
  gone_iff : output = none ↔ ∃ exchange ∈ exchanges, Removes exchange
  begun : ∃ linked, Begun desired remote start linked
  coherent : ∀ linked, Begun desired remote start linked →
    ∀ status ∈ output, Coherent (lastShown? linked exchanges) status
  next : ∀ status ∈ output, ∀ project own after, (step project status).Trace own after →
    Ruled project status own after
  absorbed : ∀ status ∈ output, status.phase = .authorized →
    ∀ own after, Life status own after → own = [] ∧ after = some status

theorem standsFor_of_getElem? (hstart : (statuses desired remote)[index]? = some start)
    {integration : Integration} (hdesired : desired[index]? = some integration) :
    StandsFor integration start := by
  obtain ⟨status, hplaced, hstands⟩ :=
    exists_getElem?_of_forall₂ (forall₂_standsFor desired remote) hdesired
  obtain ⟨hlt, _⟩ := List.getElem?_eq_some_iff.mp hplaced
  rw [statuses_eq, List.getElem?_append_left hlt, hplaced] at hstart
  exact Option.some.inj hstart ▸ hstands

theorem isRemoval_of_getElem? (hstart : (statuses desired remote)[index]? = some start)
    (hindex : desired.length ≤ index) : start.phase.isRemoval = true := by
  rw [(forall₂_standsFor desired remote).length_eq] at hindex
  rw [statuses_eq, List.getElem?_append_right hindex] at hstart
  obtain ⟨role, _, rfl⟩ := List.mem_map.mp (List.mem_of_getElem? hstart)
  rfl

/-- Whatever linking begins keeps to the laws, however many steps are made and whatever the
cloud replies. -/
theorem lawful_of_life (hstart : (statuses desired remote)[index]? = some start)
    (h : Life start exchanges output) :
    Lawful desired remote index start exchanges output where
  keeps_name := h.keeps_name
  declared _ hdesired := h.exists_standsFor (standsFor_of_getElem? hstart hdesired)
  removal hindex := h.keeps_removal (isRemoval_of_getElem? hstart hindex)
  gone_iff := h.eq_none_iff
  begun := exists_begun (List.mem_of_getElem? hstart)
  coherent _ hbegun := h.coherent hbegun.coherent
  next _ _ _ _ _ htrace := (trace_step htrace).ruled
  absorbed _ _ hphase _ _ hlife := hlife.of_authorized hphase

/-- A role as it is given back before and after it was authorized, which is told by the date. -/
def datedRole (authorized : Option Moment) : Role where
  provider := "AWS"
  roleId := "role-1"
  arn := if authorized.isSome then "arn:1" else ""
  accountArn := "account"
  externalId := "external-1"
  created := some MemoryCloud.creationTime
  authorized
  usages := []

/-- A role is created at the second attempt, and authorized at the second. -/
def bumpyExchanges : List Exchange :=
  [⟨.createRole "p" "AWS", .error (.notFound "account")⟩,
    ⟨.createRole "p" "AWS", .ok (datedRole none)⟩,
    ⟨.authorizeRole "p" "role-1" "AWS" "arn:1", .error (.api 403 "DENIED" "")⟩,
    ⟨.authorizeRole "p" "role-1" "AWS" "arn:1",
      .ok (datedRole (some MemoryCloud.authorizationTime))⟩]

theorem lawful_bumpy : ∃ status,
    (statuses [⟨"AWS", "arn:1"⟩] [])[0]? = some (declare ⟨"AWS", "arn:1"⟩) ∧
      Life (declare ⟨"AWS", "arn:1"⟩) bumpyExchanges (some status) ∧ status.phase = .authorized ∧
      Lawful [⟨"AWS", "arn:1"⟩] [] 0 (declare ⟨"AWS", "arn:1"⟩) bumpyExchanges (some status) := by
  have hstart : (statuses [⟨"AWS", "arn:1"⟩] [])[0]? = some (declare ⟨"AWS", "arn:1"⟩) := by
    decide +kernel
  have hnew : Life (declare ⟨"AWS", "arn:1"⟩) [] _ := .start
  have hrefused := hnew.step "p" (Stepped.trace (.created (.error (.notFound "account")) rfl))
  have hcreated := hrefused.step "p" (Stepped.trace (.created (.ok (datedRole none)) rfl))
  have hdenied := hcreated.step "p"
    (Stepped.trace (.authorized (.error (.api 403 "DENIED" "")) rfl))
  have hlife : Life (declare ⟨"AWS", "arn:1"⟩) bumpyExchanges _ := hdenied.step "p"
    (Stepped.trace (.authorized (.ok (datedRole (some MemoryCloud.authorizationTime))) rfl))
  exact ⟨_, hstart, hlife, rfl, lawful_of_life hstart hlife⟩

end CloudSteward.Integrations
