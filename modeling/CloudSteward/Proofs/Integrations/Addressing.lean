import CloudSteward.Http.Reply
import CloudSteward.Pass.Endpoints
import CloudSteward.Proofs.Integrations.Isolation

/-!
# Which roles the calls of a run name

The cloud finds a role by its id and its provider.  A run takes both from different
places: the id of an authorization is that of the linked role, and the provider is the
declared one.  So a call can name a role that is not there, if an integration is linked
to a role of another provider (`Mistakable`), or a role without an id.

Which calls a run makes is settled by its plan, whatever the replies are.  Hence it is
enough to follow a status back to the role that it was last linked to
(`exists_link_of_mem_placed`).  `authorizes_listed_or_mistaken` and
`namesNothing_iff_unnamed` say exactly how far the calls of a run can be trusted; the runs
behind them show that neither exception is idle.
-/

namespace CloudSteward

/-- Whether a call is to change one role or remove one thing, but does not name it. -/
def Call.namesNothing : Call → Bool
  | .authorizeRole _ roleId _ _ => roleId = ""
  | .deauthorizeRole _ roleId _ => roleId = ""
  | .deleteEndpoint _ endpointId => endpointId = ""
  | _ => false

/-! ## Endpoints -/

namespace Endpoints

variable {project : String} {exchanges : List Exchange}

theorem namesNothing_of_createAll {endpoints : List Endpoint} {value : Except CloudError Unit}
    (h : (createAll project endpoints).Trace exchanges value) :
    ∀ exchange ∈ exchanges, exchange.question.namesNothing = false := by
  induction endpoints generalizing exchanges with
  | nil =>
      obtain ⟨rfl, _⟩ := Program.trace_done_iff.mp h
      exact List.forall_mem_nil _
  | cons endpoint rest ih =>
      unfold createAll Call.make at h
      obtain ⟨reply, behind, rfl, hbehind⟩ := Program.trace_perform_bind_iff.mp h
      refine List.forall_mem_cons.mpr ⟨rfl, ?_⟩
      cases reply with
      | error error =>
          obtain ⟨rfl, _⟩ := Program.trace_done_iff.mp hbehind
          exact List.forall_mem_nil _
      | ok created => exact ih hbehind

/-- Endpoints without an id are passed over. -/
theorem namesNothing_of_deleteAll {endpoints : List Endpoint} {value : Except CloudError Unit}
    (h : (deleteAll project endpoints).Trace exchanges value) :
    ∀ exchange ∈ exchanges, exchange.question.namesNothing = false := by
  induction endpoints generalizing exchanges with
  | nil =>
      obtain ⟨rfl, _⟩ := Program.trace_done_iff.mp h
      exact List.forall_mem_nil _
  | cons endpoint rest ih =>
      unfold deleteAll Call.make at h
      by_cases hid : endpoint.endpointId = ""
      · rw [if_pos hid] at h
        exact ih h
      · rw [if_neg hid] at h
        obtain ⟨reply, behind, rfl, hbehind⟩ := Program.trace_perform_bind_iff.mp h
        refine List.forall_mem_cons.mpr ⟨decide_eq_false hid, ?_⟩
        rcases reply with error | ⟨⟩
        · obtain ⟨rfl, _⟩ := Program.trace_done_iff.mp hbehind
          exact List.forall_mem_nil _
        · exact ih hbehind

/-- A pass over endpoints never deletes without saying what. -/
theorem namesNothing_of_ensure {now : Moment} {desired : List Endpoint} {conditions : Conditions}
    {value : PassResult × Conditions}
    (h : (ensure now project desired conditions).Trace exchanges value) :
    ∀ exchange ∈ exchanges, exchange.question.namesNothing = false := by
  unfold ensure at h
  obtain ⟨result, hsync, _⟩ := Program.trace_map_iff.mp h
  unfold sync Call.make at hsync
  obtain ⟨reply, behind, rfl, hbehind⟩ := Program.trace_perform_bind_iff.mp hsync
  refine List.forall_mem_cons.mpr ⟨rfl, ?_⟩
  cases reply with
  | error error =>
      obtain ⟨rfl, _⟩ := Program.trace_done_iff.mp hbehind
      exact List.forall_mem_nil _
  | ok remote =>
      obtain ⟨creations, others, created, rfl, hcreations, hothers⟩ :=
        Program.trace_bind_iff.mp hbehind
      refine List.forall_mem_append.mpr ⟨namesNothing_of_createAll hcreations, ?_⟩
      rcases created with error | ⟨⟩
      · obtain ⟨rfl, _⟩ := Program.trace_done_iff.mp hothers
        exact List.forall_mem_nil _
      · obtain ⟨deletions, last, deleted, rfl, hdeletions, hlast⟩ :=
          Program.trace_bind_iff.mp hothers
        have hend : last = [] := by
          rcases deleted with error | ⟨⟩
          · exact (Program.trace_done_iff.mp hlast).1
          · exact (Program.trace_done_iff.mp hlast).1
        rw [hend, List.append_nil]
        exact namesNothing_of_deleteAll hdeletions

end Endpoints

/-! ## Links -/

namespace Linking

variable {desired : List Integration} {remote : List Role} {status : Status}

/-- A role that an integration may be linked to. -/
def Eligible (integration : Integration) (role : Role) : Prop :=
  role.arn = "" ∨ identifier role = identifier integration

/-- What was linked, was linked to an eligible role last. -/
theorem exists_link_of_mem_placed (h : status ∈ placed desired remote) :
    ∃ integration ∈ desired, status.provider = integration.provider ∧
      status.arn = integration.arn ∧ (status = declare integration ∨
        ∃ role ∈ remote, Eligible integration role ∧ ∃ earlier : Status,
          status = earlier.linked role) := by
  obtain ⟨integration, hdesired, hstands⟩ := exists_standsFor_of_mem_placed h
  obtain ⟨picked, hfree, hclaims⟩ := exists_picked desired remote
  obtain ⟨start, hstart, hclaimed⟩ := exists_left_of_forall₂ hclaims.forall₂ h
  rcases hclaimed with rfl | ⟨_, role, hpicked, rfl⟩
  · -- Nothing was claimed, so the link is exact, or there is none.
    obtain ⟨declared, hdeclared, rfl⟩ := List.mem_map.mp hstart
    obtain ⟨integration, hdesired, rfl⟩ := List.mem_map.mp hdeclared
    rcases linkExact_cases (sortRoles remote) integration with
      ⟨_, role, hrole, hsame, heq⟩ | ⟨_, heq⟩
    · rw [heq]
      exact ⟨integration, hdesired, rfl, rfl,
        .inr ⟨role, mem_sortRoles_iff.mp hrole, .inr hsame, _, rfl⟩⟩
    · rw [heq]
      exact ⟨integration, hdesired, rfl, rfl, .inl rfl⟩
  · obtain ⟨hrole, harn⟩ := mem_free_iff.mp (hfree ▸ List.mem_append_left _ hpicked)
    exact ⟨integration, hdesired, hstands.provider_eq, hstands.arn_eq,
      .inr ⟨role, hrole, .inl harn, start, rfl⟩⟩

/-- An integration may be linked to a role of another provider: to one without an `arn`,
or to one whose identifier happens to be the same text. -/
structure Mistakable (integration : Integration) (role : Role) : Prop where
  eligible : Eligible integration role
  provider_ne : role.provider ≠ integration.provider

end Linking

namespace Integrations

open Linking

variable {project : String} {desired : List Integration} {remote : List Role}
  {exchanges : List Exchange} {outputs : List Status} {call : Call}

/-! ## The calls of the plan -/

theorem questions_eq_plan (h : (sync project desired remote).Trace exchanges outputs) :
    exchanges.map Program.Exchange.question = plan project desired remote := by
  obtain ⟨shares, replies, hisolated⟩ := exists_isolated h
  exact hisolated.questions_eq

theorem exists_trace_sync (project : String) (desired : List Integration) (remote : List Role) :
    ∃ exchanges outputs, (sync project desired remote).Trace exchanges outputs := by
  obtain ⟨exchanges, htrace⟩ :=
    Program.exists_trace_of_run dateless (sync project desired remote) ()
  exact ⟨exchanges, _, htrace⟩

theorem mem_plan_iff : call ∈ plan project desired remote ↔
    (∃ status ∈ placed desired remote, callOf? project status = some call) ∨
      ∃ role ∈ surplus desired remote,
        call = .deauthorizeRole project role.roleId role.provider := by
  unfold plan
  rw [List.mem_append, List.mem_filterMap, List.mem_map]
  simp only [eq_comm]

/-- A status is authorized by name of the role that it was linked to. -/
theorem exists_role_of_authorize {status : Status} (hstatus : status ∈ placed desired remote)
    (hmove : move status = .authorize) :
    ∃ integration ∈ desired, status.provider = integration.provider ∧
      status.arn = integration.arn ∧ ∃ role ∈ remote, Eligible integration role ∧
        role.roleId = status.roleId ∧ role.isAuthorized = false := by
  obtain ⟨integration, hdesired, hprovider, harn, heq | ⟨role, hrole, heligible, earlier, heq⟩⟩ :=
    exists_link_of_mem_placed hstatus
  · rw [heq, move_declare] at hmove
    cases hmove
  · refine ⟨integration, hdesired, hprovider, harn, role, hrole, heligible, ?_, ?_⟩
    · rw [heq]
      rfl
    · by_contra hauthorized
      rw [heq, move_linked, if_pos (.inl (Bool.not_eq_false _ ▸ hauthorized))] at hmove
      cases hmove

theorem authorize_mem_plan_iff {owner roleId provider arn : String} :
    .authorizeRole owner roleId provider arn ∈ plan project desired remote ↔
      ∃ status ∈ placed desired remote, move status = .authorize ∧ owner = project ∧
        roleId = status.roleId ∧ provider = status.provider ∧ arn = status.arn := by
  rw [mem_plan_iff]
  have hsurplus : ¬∃ role ∈ surplus desired remote, Call.authorizeRole owner roleId provider arn =
      .deauthorizeRole project role.roleId role.provider := by
    rintro ⟨role, _, heq⟩
    cases heq
  rw [or_iff_left hsurplus]
  refine exists_congr fun status => and_congr_right fun _ => ?_
  unfold callOf?
  cases move status with
  | rest => simp
  | create => simp
  | remove => simp
  | authorize =>
      rw [and_iff_right rfl, Option.some.injEq, Call.authorizeRole.injEq]
      simp only [eq_comm]

/-! ## Providers -/

/-- Whatever is declared and listed, a run authorizes only roles that are listed and not
authorized yet, for declared integrations with an `arn`.  The provider that it names is
that of the role, unless the role is one that the integration is mistaken about. -/
theorem authorizes_listed_or_mistaken
    (h : (sync project desired remote).Trace exchanges outputs)
    {owner roleId provider arn : String}
    (hcall : .authorizeRole owner roleId provider arn ∈
      exchanges.map Program.Exchange.question) :
    owner = project ∧ arn ≠ "" ∧ ⟨provider, arn⟩ ∈ desired ∧
      ∃ role ∈ remote, role.roleId = roleId ∧ role.isAuthorized = false ∧
        (role.provider = provider ∨ Mistakable ⟨provider, arn⟩ role) := by
  rw [questions_eq_plan h, authorize_mem_plan_iff] at hcall
  obtain ⟨status, hstatus, hmove, rfl, rfl, rfl, rfl⟩ := hcall
  obtain ⟨integration, hdesired, hprovider, harn, role, hrole, heligible, hid, hauthorized⟩ :=
    exists_role_of_authorize hstatus hmove
  have hintegration : integration = ⟨status.provider, status.arn⟩ := by
    rw [hprovider, harn]
  subst hintegration
  refine ⟨rfl, arn_ne_of_move hmove, hdesired, role, hrole, hid, hauthorized, ?_⟩
  by_cases hsame : role.provider = status.provider
  · exact .inl hsame
  · exact .inr ⟨heligible, hsame⟩

/-- A role without an `arn`, of another provider than the one that is declared below. -/
def strangerRole : Role :=
  bareRole "AWS" "role-0001" ""

theorem plan_strangerRole : plan "p" [⟨"GCP", "arn:1"⟩] [strangerRole] =
    [.authorizeRole "p" "role-0001" "GCP" "arn:1"] := by
  cbv

theorem exists_strangerRun : ∃ exchanges outputs,
    (sync "p" [⟨"GCP", "arn:1"⟩] [strangerRole]).Trace exchanges outputs ∧
      .authorizeRole "p" "role-0001" "GCP" "arn:1" ∈ exchanges.map Program.Exchange.question := by
  obtain ⟨exchanges, outputs, htrace⟩ :=
    exists_trace_sync "p" [⟨"GCP", "arn:1"⟩] [strangerRole]
  refine ⟨exchanges, outputs, htrace, ?_⟩
  rw [questions_eq_plan htrace, plan_strangerRole]
  exact List.mem_singleton_self _

/-- The run that is given only this role authorizes it under the declared provider. -/
theorem authorizes_stranger :
    ∃ exchanges outputs,
      (sync "p" [⟨"GCP", "arn:1"⟩] [strangerRole]).Trace exchanges outputs ∧
      .authorizeRole "p" "role-0001" "GCP" "arn:1" ∈ exchanges.map Program.Exchange.question ∧
      Mistakable ⟨"GCP", "arn:1"⟩ strangerRole := by
  obtain ⟨exchanges, outputs, htrace, hcall⟩ := exists_strangerRun
  obtain ⟨_, _, _, role, hrole, _, _, hprovider⟩ := authorizes_listed_or_mistaken htrace hcall
  obtain rfl := List.mem_singleton.mp hrole
  exact ⟨exchanges, outputs, htrace, hcall, hprovider.resolve_left (by decide)⟩

/-- So it is not true that every authorization names a listed role by its id and its
provider. -/
theorem not_forall_authorizes_listed :
    ¬∀ (project : String) (desired : List Integration) (remote : List Role)
      (exchanges : List Exchange) (outputs : List Status),
      (sync project desired remote).Trace exchanges outputs →
        ∀ owner roleId provider arn : String,
          .authorizeRole owner roleId provider arn ∈ exchanges.map Program.Exchange.question →
            ∃ role ∈ remote, role.roleId = roleId ∧ role.provider = provider := by
  intro hall
  obtain ⟨exchanges, outputs, htrace, hcall⟩ := exists_strangerRun
  obtain ⟨role, hrole, _, hprovider⟩ := hall _ _ _ _ _ htrace _ _ _ _ hcall
  obtain rfl := List.mem_singleton.mp hrole
  exact absurd hprovider (by decide)

/-! ## Ids -/

/-- A call of the plan that names no role comes from a surplus role without an id, or
from one that was linked. -/
theorem exists_namesNothing_mem_plan_iff :
    (∃ call ∈ plan project desired remote, call.namesNothing = true) ↔
      ∃ role ∈ remote, role.roleId = "" ∧ (role ∈ surplus desired remote ∨
        ∃ status ∈ placed desired remote, move status = .authorize ∧
          status.roleId = role.roleId) := by
  constructor
  · rintro ⟨call, hcall, hnothing⟩
    rcases mem_plan_iff.mp hcall with ⟨status, hstatus, hown⟩ | ⟨role, hsurplus, rfl⟩
    · unfold callOf? at hown
      cases hmove : move status with
      | rest =>
          rw [hmove] at hown
          cases hown
      | create =>
          rw [hmove] at hown
          obtain rfl := Option.some.inj hown
          cases hnothing
      | remove => exact absurd hmove (move_ne_remove_of_mem_placed hstatus)
      | authorize =>
          rw [hmove] at hown
          obtain rfl := Option.some.inj hown
          have hempty : status.roleId = "" := of_decide_eq_true hnothing
          obtain ⟨_, _, _, _, role, hrole, _, hid, _⟩ := exists_role_of_authorize hstatus hmove
          exact ⟨role, hrole, hid.trans hempty, .inr ⟨status, hstatus, hmove, hid.symm⟩⟩
    · exact ⟨role, (mem_surplus hsurplus).1, of_decide_eq_true hnothing, .inl hsurplus⟩
  · rintro ⟨role, _, hempty, hsurplus | ⟨status, hstatus, hmove, hid⟩⟩
    · exact ⟨_, mem_plan_iff.mpr (.inr ⟨role, hsurplus, rfl⟩), decide_eq_true hempty⟩
    · exact ⟨_, authorize_mem_plan_iff.mpr ⟨status, hstatus, hmove, rfl, rfl, rfl, rfl⟩,
        decide_eq_true (hid.trans hempty)⟩

/-- A run names no role in a call if and only if some listed role without an id is surplus,
or is to be authorized.  A pass over endpoints never makes such a call. -/
theorem namesNothing_iff_unnamed (h : (sync project desired remote).Trace exchanges outputs) :
    ((∃ exchange ∈ exchanges, exchange.question.namesNothing = true) ↔
      ∃ role ∈ remote, role.roleId = "" ∧ (role ∈ surplus desired remote ∨
        ∃ status ∈ placed desired remote, move status = .authorize ∧
          status.roleId = role.roleId)) ∧
      ∀ (now : Moment) (owner : String) (endpoints : List Endpoint) (conditions : Conditions)
        (own : List Exchange) (value : PassResult × Conditions),
        (Endpoints.ensure now owner endpoints conditions).Trace own value →
          ∀ exchange ∈ own, exchange.question.namesNothing = false := by
  refine ⟨?_, fun _ _ _ _ _ _ hown => Endpoints.namesNothing_of_ensure hown⟩
  have hplan : (∃ call ∈ plan project desired remote, call.namesNothing = true) ↔ _ :=
    exists_namesNothing_mem_plan_iff
  rw [← hplan, ← questions_eq_plan h]
  simp only [List.mem_map, exists_exists_and_eq_and]

/-- A listing of one role that has an `arn` but no id. -/
def unnamedListing : Text :=
  .ofString ("\x7b\"awsIamRoles\":" ++
    "[\x7b\"providerName\":\"AWS\",\"iamAssumedRoleArn\":\"arn:9\"\x7d]\x7d")

theorem decode_unnamedListing :
    Http.roleList.codec.decode unnamedListing = .ok [bareRole "AWS" "" "arn:9"] := by
  cbv

/-- If nothing is declared, this role is surplus, and its removal names nothing. -/
theorem removes_unnamed :
    ∃ remote exchanges outputs, Http.roleList.codec.decode unnamedListing = .ok remote ∧
      (sync "p" [] remote).Trace exchanges outputs ∧
      ∃ exchange ∈ exchanges, exchange.question.namesNothing = true := by
  obtain ⟨exchanges, outputs, htrace⟩ := exists_trace_sync "p" [] [bareRole "AWS" "" "arn:9"]
  refine ⟨_, exchanges, outputs, decode_unnamedListing, htrace, ?_⟩
  refine (namesNothing_iff_unnamed htrace).1.mpr ⟨_, List.mem_singleton_self _, rfl, .inl ?_⟩
  have hsurplus : surplus [] [bareRole "AWS" "" "arn:9"] = [bareRole "AWS" "" "arn:9"] := by cbv
  rw [hsurplus]
  exact List.mem_singleton_self _

/-- So it is not true that every call of a run over a listing names a role. -/
theorem not_forall_calls_named :
    ¬∀ (project : String) (desired : List Integration) (listing : Text) (remote : List Role)
      (exchanges : List Exchange) (outputs : List Status),
      Http.roleList.codec.decode listing = .ok remote →
      (sync project desired remote).Trace exchanges outputs →
        ∀ exchange ∈ exchanges, exchange.question.namesNothing = false := by
  intro hall
  obtain ⟨exchanges, outputs, htrace⟩ := exists_trace_sync "p" [] [bareRole "AWS" "" "arn:9"]
  have hplan : plan "p" [] [bareRole "AWS" "" "arn:9"] = [.deauthorizeRole "p" "" "AWS"] := by cbv
  have hcall : .deauthorizeRole "p" "" "AWS" ∈ exchanges.map Program.Exchange.question := by
    rw [questions_eq_plan htrace, hplan]
    exact List.mem_singleton_self _
  obtain ⟨exchange, hexchange, hquestion⟩ := List.mem_map.mp hcall
  have hnamed := hall _ _ _ _ _ _ decode_unnamedListing htrace exchange hexchange
  rw [hquestion] at hnamed
  cases hnamed

end Integrations

end CloudSteward
