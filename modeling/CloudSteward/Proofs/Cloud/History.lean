import CloudSteward.Proofs.Cloud.Endpoints
import CloudSteward.Proofs.Cloud.Logins
import CloudSteward.Proofs.Cloud.Roles

/-!
# Histories of the cloud in memory

From outside three things happen to a cloud, in any order and with any arguments: somebody adds
a role, somebody orders a failure, or a client makes a call.  `ofHistory` is the cloud that
started empty and to which the things of a list happened, the oldest first.

Two invariants carry over from each of these clouds to the next, whatever happens: no two roles
share an id (`Numbered`), and no two endpoints of a project do (`EndpointsApart`).  What a single
call leaves behind is said of every cloud (`Accounted`): it is logged once, it changes nothing
else if it fails, and if a failure of its kind was ordered, it uses up the oldest one and no
other.  For roles and for settings and configs this is known from `RolesAfter` and `LoginsAfter`;
`EndpointsAfter` and `FailuresAfter` say the same of what is left.
-/

namespace CloudSteward.MemoryCloud

/-! ## Histories -/

/-- What may happen to a cloud. -/
inductive Happening where
  | added (project provider arn : String)
  | ordered (operation : Operation) (detail : String)
  | called (call : Call)

namespace Happening

/-- The cloud after something has happened to it. -/
def apply (cloud : MemoryCloud) : Happening → MemoryCloud
  | .added project provider arn => cloud.addRole project provider arn
  | .ordered operation detail => cloud.orderFailure operation detail
  | .called call => (answer call cloud).2

/-- The kind of the call that was made, if any was. -/
def operation? : Happening → Option Operation
  | .added _ _ _ => none
  | .ordered _ _ => none
  | .called call => some call.operation

end Happening

/-- The cloud that comes about if these things happen to the empty one, one after the other. -/
def ofHistory (history : List Happening) : MemoryCloud :=
  history.foldl Happening.apply empty

@[simp] theorem ofHistory_nil : ofHistory [] = empty := rfl

@[simp] theorem ofHistory_concat (history : List Happening) (happening : Happening) :
    ofHistory (history ++ [happening]) = happening.apply (ofHistory history) := by
  simp [ofHistory]

/-- What holds of the empty cloud and survives whatever happens holds after every history. -/
theorem ofHistory_induction {holds : MemoryCloud → Prop} (hempty : holds empty)
    (hstep : ∀ (cloud : MemoryCloud) (happening : Happening), holds cloud →
      holds (happening.apply cloud)) (history : List Happening) : holds (ofHistory history) := by
  induction history using List.reverseRecOn with
  | nil => exact hempty
  | append_singleton history happening ih =>
      rw [ofHistory_concat]
      exact hstep _ happening ih

variable {cloud after : MemoryCloud} {exchange : Exchange}

/-! ## Roles -/

theorem Numbered.apply (h : cloud.Numbered) (happening : Happening) :
    (happening.apply cloud).Numbered := by
  cases happening with
  | added project provider arn => exact h.addRole project provider arn
  | ordered operation detail => exact h.of_sameRoles ⟨rfl, rfl⟩
  | called call => exact h.step (rolesAfter_answer call cloud)

theorem numbered_ofHistory (history : List Happening) : (ofHistory history).Numbered :=
  ofHistory_induction .empty (fun _ happening h => h.apply happening) history

/-! ## Endpoints -/

/-- What the endpoints are after a call with its reply. -/
inductive EndpointsAfter (cloud : MemoryCloud) : Exchange → MemoryCloud → Prop where
  | kept {exchange : Exchange} {after : MemoryCloud} : after.endpoints = cloud.endpoints →
      EndpointsAfter cloud exchange after
  | created {after : MemoryCloud} {project : String} {endpoint : Endpoint} :
      endpoint.endpointId ∉ idsOf (cloud.endpointsOf project) →
      after.endpoints = cloud.endpoints ++ [(project, endpoint)] →
        EndpointsAfter cloud ⟨.createEndpoint project endpoint, .ok endpoint⟩ after
  | deleted {after : MemoryCloud} {project id : String} :
      after.endpoints = (cloud.endpoints.filter fun entry =>
        !(entry.1 = project && entry.2.endpointId = id)) →
        EndpointsAfter cloud ⟨.deleteEndpoint project id, .ok ()⟩ after

/-- Every call of every kind does one of these things. -/
theorem endpointsAfter_answer (call : Call) (cloud : MemoryCloud) :
    cloud.EndpointsAfter ⟨call, (answer call cloud).1⟩ (answer call cloud).2 := by
  unfold answer
  cases cloud.orderedFailure? call.operation with
  | some detail => exact .kept rfl
  | none =>
      cases call with
      | createEndpoint project endpoint =>
          simp only [perform]
          split
          case isTrue => exact .kept rfl
          case isFalse hany => exact .created (fun hid => hany (any_endpointId_iff.mpr hid)) rfl
      | deleteEndpoint project id =>
          simp only [perform]
          split
          case isTrue => exact .deleted rfl
          case isFalse => exact .kept rfl
      | listRoles | createRole | listEndpoints => exact .kept rfl
      | authorizeRole | deauthorizeRole | getSettings | getOrg | updateOrg =>
          simp only [perform]
          split <;> exact .kept rfl

/-- No two endpoints of a project share an id. -/
def EndpointsApart (cloud : MemoryCloud) : Prop :=
  ∀ project, ((cloud.endpointsOf project).map Endpoint.endpointId).Nodup

theorem EndpointsApart.of_sublist (h : cloud.EndpointsApart)
    (hsublist : after.endpoints.Sublist cloud.endpoints) : after.EndpointsApart := by
  intro project
  exact (h project).sublist (((hsublist.filter _).map _).map _)

theorem EndpointsApart.step (h : cloud.EndpointsApart)
    (heffect : cloud.EndpointsAfter exchange after) : after.EndpointsApart := by
  cases heffect with
  | kept hkept => exact h.of_sublist (hkept ▸ List.Sublist.refl _)
  | deleted hdeleted => exact h.of_sublist (hdeleted ▸ List.filter_sublist)
  | @created _ owner endpoint hfresh hcreated =>
      intro project
      by_cases howner : owner = project
      · have hbehind : after.endpointsOf project = cloud.endpointsOf project ++ [endpoint] := by
          simp [endpointsOf, hcreated, howner]
        rw [hbehind, List.map_append, List.nodup_append]
        refine ⟨h project, List.nodup_singleton _, ?_⟩
        intro id hid other hother heq
        obtain rfl := List.mem_singleton.mp hother
        obtain ⟨known, hknown, rfl⟩ := List.mem_map.mp hid
        exact hfresh (howner ▸ mem_idsOf_iff.mpr ⟨known, hknown, heq⟩)
      · have hsame : after.endpointsOf project = cloud.endpointsOf project := by
          simp [endpointsOf, hcreated, howner]
        rw [hsame]
        exact h project

theorem EndpointsApart.apply (h : cloud.EndpointsApart) (happening : Happening) :
    (happening.apply cloud).EndpointsApart := by
  cases happening with
  | added project provider arn => exact h
  | ordered operation detail => exact h
  | called call => exact h.step (endpointsAfter_answer call cloud)

theorem endpointsApart_ofHistory (history : List Happening) :
    (ofHistory history).EndpointsApart := by
  apply ofHistory_induction
  · intro project
    exact List.nodup_nil
  · intro cloud happening h
    exact h.apply happening

/-! ## Failures that were ordered -/

/-- What the ordered failures are after a call with its reply. -/
inductive FailuresAfter (cloud : MemoryCloud) : Exchange → MemoryCloud → Prop where
  | struck {after : MemoryCloud} {call : Call} {detail : String}
      {older younger : List (Operation × String)} :
      cloud.failures = older ++ (call.operation, detail) :: younger →
      (∀ entry ∈ older, entry.1 ≠ call.operation) → after.failures = older ++ younger →
        FailuresAfter cloud ⟨call, .error (injected detail)⟩ after
  | untouched {exchange : Exchange} {after : MemoryCloud} :
      (∀ entry ∈ cloud.failures, entry.1 ≠ exchange.question.operation) →
      after.failures = cloud.failures → FailuresAfter cloud exchange after

/-- The failure that is dropped is the first one of its kind. -/
theorem exists_split_of_lookup {operation : Operation} {detail : String}
    {failures : List (Operation × String)} (h : failures.lookup operation = some detail) :
    ∃ older younger, failures = older ++ (operation, detail) :: younger ∧
      (∀ entry ∈ older, entry.1 ≠ operation) ∧
      dropFailure operation failures = older ++ younger := by
  induction failures with
  | nil => cases h
  | cons entry rest ih =>
      obtain ⟨kind, text⟩ := entry
      rw [dropFailure]
      by_cases hkind : kind = operation
      · subst hkind
        have htext : text = detail := by simpa using h
        exact ⟨[], rest, by simp [htext], List.forall_mem_nil _, if_pos rfl⟩
      · have hrest : rest.lookup operation = some detail := by
          rwa [List.lookup_cons, beq_false_of_ne (Ne.symm hkind)] at h
        obtain ⟨older, younger, hsplit, hothers, hdrop⟩ := ih hrest
        refine ⟨(kind, text) :: older, younger, by rw [hsplit]; rfl, ?_, ?_⟩
        · exact List.forall_mem_cons.mpr ⟨hkind, hothers⟩
        · rw [if_neg hkind, hdrop]
          rfl

/-- Every call of every kind does one of these things. -/
theorem failuresAfter_answer (call : Call) (cloud : MemoryCloud) :
    cloud.FailuresAfter ⟨call, (answer call cloud).1⟩ (answer call cloud).2 := by
  unfold answer
  cases hfailure : cloud.orderedFailure? call.operation with
  | some detail =>
      obtain ⟨older, younger, hsplit, hothers, hdrop⟩ := exists_split_of_lookup hfailure
      exact .struck hsplit hothers hdrop
  | none =>
      refine .untouched ?_ (log_failures_perform call _).2
      intro entry hentry hkind
      have hmiss := List.lookup_eq_none_iff.mp hfailure entry hentry
      simp [hkind] at hmiss

/-! ## Calls -/

/-- Two clouds that differ at most in what was logged and in the failures that are ordered. -/
structure Spared (cloud after : MemoryCloud) : Prop where
  roles : cloud.SameRoles after
  endpoints_eq : after.endpoints = cloud.endpoints
  logins : cloud.SameLogins after

/-- What a call leaves behind. -/
structure Accounted (cloud : MemoryCloud) (exchange : Exchange) (after : MemoryCloud) : Prop where
  logged : after.log = cloud.log ++ [exchange.question.operation]
  spared : exchange.failed = true → cloud.Spared after
  failures : cloud.FailuresAfter exchange after

theorem EndpointsAfter.endpoints_eq_of_error {call : Call} {error : CloudError}
    (h : cloud.EndpointsAfter ⟨call, .error error⟩ after) : after.endpoints = cloud.endpoints := by
  cases h with
  | kept hkept => exact hkept

theorem spared_of_error {call : Call} {error : CloudError}
    (h : (answer call cloud).1 = .error error) : cloud.Spared (answer call cloud).2 where
  roles := (h ▸ rolesAfter_answer call cloud).sameRoles_of_error
  endpoints_eq := (h ▸ endpointsAfter_answer call cloud).endpoints_eq_of_error
  logins := (h ▸ loginsAfter_answer call cloud).sameLogins_of_error

theorem accounted_answer (call : Call) (cloud : MemoryCloud) :
    cloud.Accounted ⟨call, (answer call cloud).1⟩ (answer call cloud).2 where
  logged := log_answer call cloud
  spared := by
    intro hfailed
    cases hreply : (answer call cloud).1 with
    | ok value => simp [Program.Exchange.failed, hreply] at hfailed
    | error error => exact spared_of_error hreply
  failures := failuresAfter_answer call cloud

/-- Everything that was called is logged, and nothing else. -/
theorem log_ofHistory (history : List Happening) :
    (ofHistory history).log = history.filterMap Happening.operation? := by
  induction history using List.reverseRecOn with
  | nil => rfl
  | append_singleton history happening ih =>
      rw [ofHistory_concat, List.filterMap_append, ← ih]
      cases happening with
      | added project provider arn => exact (List.append_nil _).symm
      | ordered operation detail => exact (List.append_nil _).symm
      | called call => exact log_answer call _

/-- A cloud in good order. -/
structure Orderly (cloud : MemoryCloud) : Prop where
  /-- No two roles share an id, whatever projects they belong to. -/
  roles_apart : (cloud.roles.map fun entry => entry.2.roleId).Nodup
  endpoints_apart : cloud.EndpointsApart
  /-- Every call is accounted for, whatever it asks for and whether or not it fails. -/
  calls_accounted : ∀ call, cloud.Accounted ⟨call, (answer call cloud).1⟩ (answer call cloud).2

/-- Whatever has happened to a cloud, it is in good order, and its log shows the calls that were
made, each once and in their order. -/
theorem orderly_ofHistory (history : List Happening) :
    (ofHistory history).Orderly ∧
      (ofHistory history).log = history.filterMap Happening.operation? := by
  refine ⟨?_, log_ofHistory history⟩
  exact
    { roles_apart := (numbered_ofHistory history).distinct
      endpoints_apart := endpointsApart_ofHistory history
      calls_accounted := fun call => accounted_answer call _ }

end CloudSteward.MemoryCloud
