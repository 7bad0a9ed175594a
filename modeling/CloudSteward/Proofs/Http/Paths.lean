import CloudSteward.Proofs.Http.Carried
import CloudSteward.Proofs.Http.Segments
import Mathlib

/-!
# Where a call is sent

The path of a call is put together from segments, some of which are identifiers that come from
elsewhere.  What a request is sent to is what an address makes of that path, and an identifier
that holds a mark of addresses is read as more than the name of an object: with a slash it is two
segments, with a question mark the rest is not in the path, and with dots it leaves the segments
before it.  So distinct calls may be sent to the same path.

Where each segment of a call stands for itself (`Call.Intact`), the path is one of the client
with the segments behind it (`Call.exists_path_eq`), so calls that are sent to the same path have
the same segments, but for how they are spelled.
-/

namespace CloudSteward

open Http Http.Url

/-! ## The segments of a call -/

namespace Call

/-- The segments of the path of a call. -/
def segments : Call → List String
  | .listRoles project => ["groups", project, "cloudProviderAccess"]
  | .createRole project _ => ["groups", project, "cloudProviderAccess"]
  | .authorizeRole project roleId _ _ => ["groups", project, "cloudProviderAccess", roleId]
  | .deauthorizeRole project roleId provider =>
      ["groups", project, "cloudProviderAccess", provider, roleId]
  | .listEndpoints project => ["groups", project, "privateNetworkSettings", "endpointIds"]
  | .createEndpoint project _ => ["groups", project, "privateNetworkSettings", "endpointIds"]
  | .deleteEndpoint project endpointId =>
      ["groups", project, "privateNetworkSettings", "endpointIds", endpointId]
  | .getSettings org => ["orgs", org, "federationSettings"]
  | .getOrg settings org => ["federationSettings", settings, "connectedOrgConfigs", org]
  | .updateOrg settings config =>
      ["federationSettings", settings, "connectedOrgConfigs", config.orgId]

theorem path_eq (call : Call) : call.path.toList = joined (call.segments.map String.toList) := by
  have hroles (project : String) :
      ("/groups/" ++ project ++ "/cloudProviderAccess").toList =
        joined (["groups", project, "cloudProviderAccess"].map String.toList) := by
    simp [joined]
  have hendpoints (project : String) :
      ("/groups/" ++ project ++ "/privateNetworkSettings/endpointIds").toList =
        joined (["groups", project, "privateNetworkSettings", "endpointIds"].map
          String.toList) := by
    simp [joined]
  have horg (settings org : String) :
      ("/federationSettings/" ++ settings ++ "/connectedOrgConfigs/" ++ org).toList =
        joined (["federationSettings", settings, "connectedOrgConfigs", org].map
          String.toList) := by
    simp [joined]
  have hbehind {front : String} {segments : List String} (segment : String)
      (hfront : front.toList = joined (segments.map String.toList)) :
      (front ++ "/" ++ segment).toList =
        joined ((segments ++ [segment]).map String.toList) := by
    simp [hfront, joined]
  cases call with
  | listRoles project => exact hroles project
  | createRole project _ => exact hroles project
  | authorizeRole project roleId _ _ => exact hbehind roleId (hroles project)
  | deauthorizeRole project roleId provider =>
      exact hbehind roleId (hbehind provider (hroles project))
  | listEndpoints project => exact hendpoints project
  | createEndpoint project _ => exact hendpoints project
  | deleteEndpoint project endpointId => exact hbehind endpointId (hendpoints project)
  | getSettings org =>
      show ("/orgs/" ++ org ++ "/federationSettings").toList = _
      simp [joined, segments]
  | getOrg settings org => exact horg settings org
  | updateOrg settings config => exact horg settings config.orgId

end Call

/-- Whether the segments of a call all stand for themselves, and no blanks end the path. -/
structure Call.Intact (call : Call) : Prop where
  segments : ∀ segment ∈ call.segments, IsSegment segment.toList
  last : ∀ c ∈ call.path.toList.getLast?, 0x20 < c.toNat

theorem Call.intact_iff {call : Call} :
    call.Intact ↔ (∀ segment ∈ call.segments, IsSegment segment.toList) ∧
      call.path.toList.getLast?.all (fun c => 0x20 < c.toNat) = true := by
  rw [Option.all_eq_true]
  simp only [decide_eq_true_eq]
  exact ⟨fun h => ⟨h.segments, h.last⟩, fun h => ⟨h.1, h.2⟩⟩

instance (call : Call) : Decidable call.Intact :=
  decidable_of_iff' _ Call.intact_iff

/-! ## Where calls are sent -/

namespace Call

/-- The segments of a call as they are written in an address. -/
def spelled (call : Call) : List (List Char) :=
  call.segments.map fun segment => encode pathMarks segment.toList

variable {client : Client} {call first second : Call} {request other : Request}

/-- The requests of a client are sent to one path of the client, with the segments of the call
behind it. -/
theorem exists_path_eq (haddress : ∀ c ∈ client.address.toList, c ≠ '?' ∧ c ≠ '#') :
    ∃ path, ∀ {call : Call} {request : Request}, call.Intact →
      client.request call = .ok request →
        request.url.path = String.ofList (path ++ joined call.spelled) := by
  have hbase : ∀ c ∈ client.base.toList, endsPath c = false := by
    intro c hc
    rw [Client.base, String.toList_ofList, List.mem_reverse] at hc
    have hmem := haddress c (List.mem_reverse.mp ((List.dropWhile_sublist _).subset hc))
    simpa [endsPath] using hmem
  obtain ⟨path, hpath⟩ := exists_path_parse? hbase
  refine ⟨path, fun {call request} hintact hrequest => ?_⟩
  obtain ⟨url, hasks⟩ := Client.exists_asks_of_request hrequest
  obtain ⟨authority, hurl⟩ := url.exists_withoutUser_eq
  have hscheme := scheme_of_isSendable hasks.sendable
  rw [hasks.url_eq, hurl] at hscheme
  rw [hasks.url_eq, hurl, spelled, ← Function.comp_def, ← List.map_map]
  show url.path = _
  refine hpath ?_ ?_ ?_ ?_ hasks.parsed hscheme
  · rw [String.toList_append, String.toList_append, call.path_eq]
  · cases call <;> exact List.cons_ne_nil _ _
  · intro segment hsegment
    obtain ⟨s, hs, rfl⟩ := List.mem_map.mp hsegment
    exact hintact.segments s hs
  · rw [← call.path_eq]
    exact hintact.last

theorem Intact.slash_notMem (h : call.Intact) : ∀ segment ∈ call.spelled, '/' ∉ segment := by
  intro segment hsegment
  obtain ⟨s, hs, rfl⟩ := List.mem_map.mp hsegment
  refine slash_notMem_encode fun hslash => ?_
  exact (h.segments s hs).unbroken '/' hslash (by decide)

/-- Two requests of a client are sent to the same path just if their calls are spelled alike. -/
theorem path_eq_iff_spelled_eq (haddress : ∀ c ∈ client.address.toList, c ≠ '?' ∧ c ≠ '#')
    (hfirst : first.Intact) (hsecond : second.Intact)
    (hrequest : client.request first = .ok request) (hother : client.request second = .ok other) :
    request.url.path = other.url.path ↔ first.spelled = second.spelled := by
  obtain ⟨path, hpath⟩ := exists_path_eq haddress
  rw [hpath hfirst hrequest, hpath hsecond hother, String.ofList_inj, List.append_right_inj]
  exact ⟨joined_injective hfirst.slash_notMem hsecond.slash_notMem, congrArg joined⟩

/-- Without percent signs, segments that are spelled alike are the same. -/
theorem eq_of_map_encode_eq {first second : List String}
    (hfirst : ∀ segment ∈ first, '%' ∉ segment.toList)
    (hsecond : ∀ segment ∈ second, '%' ∉ segment.toList)
    (heq : (first.map fun segment => encode pathMarks segment.toList) =
      second.map fun segment => encode pathMarks segment.toList) : first = second := by
  induction first generalizing second with
  | nil => exact (List.map_eq_nil_iff.mp heq.symm).symm
  | cons segment first ih =>
      cases second with
      | nil => cases heq
      | cons other second =>
          obtain ⟨hsegment, hothers⟩ := List.cons.inj heq
          obtain ⟨hplain, hfirst⟩ := List.forall_mem_cons.mp hfirst
          obtain ⟨hother, hsecond⟩ := List.forall_mem_cons.mp hsecond
          rw [String.toList_inj.mp (encode_injective hplain hother hsegment),
            ih hfirst hsecond hothers]

/-- A removal is told by its segments. -/
theorem eq_of_segments_eq (hfirst : first.method = .delete) (hsecond : second.method = .delete)
    (heq : first.segments = second.segments) : first = second := by
  cases first with
  | deauthorizeRole =>
      cases second with
      | deauthorizeRole =>
          cases heq
          rfl
      | deleteEndpoint => simp [segments] at heq
      | _ => cases hsecond
  | deleteEndpoint =>
      cases second with
      | deauthorizeRole => simp [segments] at heq
      | deleteEndpoint =>
          cases heq
          rfl
      | _ => cases hsecond
  | _ => cases hfirst

/-- Two removals whose segments stand for themselves are sent to the same path just if they are
spelled alike; without percent signs, just if they are the same removal. -/
theorem path_eq_iff_of_intact (haddress : ∀ c ∈ client.address.toList, c ≠ '?' ∧ c ≠ '#')
    (hdelete : first.method = .delete) (hremove : second.method = .delete)
    (hfirst : first.Intact) (hsecond : second.Intact)
    (hrequest : client.request first = .ok request) (hother : client.request second = .ok other) :
    (request.url.path = other.url.path ↔ first.spelled = second.spelled) ∧
      ((∀ segment ∈ first.segments ++ second.segments, '%' ∉ segment.toList) →
        (request.url.path = other.url.path ↔ first = second)) := by
  have hspelled := path_eq_iff_spelled_eq haddress hfirst hsecond hrequest hother
  refine ⟨hspelled, fun hplain => ?_⟩
  obtain ⟨hplain, hbare⟩ := List.forall_mem_append.mp hplain
  rw [hspelled]
  constructor
  · intro heq
    exact eq_of_segments_eq hdelete hremove (eq_of_map_encode_eq hplain hbare heq)
  · rintro rfl
    rfl

/-- Two removals with identifiers of the usual kind. -/
theorem path_ne_of_usual : ∃ request other,
    (Client.mk "http://cloud/" none).request (.deauthorizeRole "p" "r1" "AWS") = .ok request ∧
      (Client.mk "http://cloud/" none).request (.deauthorizeRole "p" "r2" "AWS") = .ok other ∧
      request.url.path ≠ other.url.path := by
  obtain ⟨request, hrequest⟩ : ∃ request,
      (Client.mk "http://cloud/" none).request (.deauthorizeRole "p" "r1" "AWS") =
        .ok request := ⟨_, by cbv⟩
  obtain ⟨other, hother⟩ : ∃ request,
      (Client.mk "http://cloud/" none).request (.deauthorizeRole "p" "r2" "AWS") =
        .ok request := ⟨_, by cbv⟩
  have hpath := (path_eq_iff_of_intact (by simp) rfl rfl (by decide) (by decide) hrequest
    hother).2 (by decide)
  exact ⟨request, other, hrequest, hother, fun heq => absurd (hpath.mp heq) (by decide)⟩

/-- Identifiers are put into the path as they are.  One with a slash is read as two segments, and
one with dots leads out of the project, so a removal may be sent to where another one is. -/
theorem not_forall_removal_apart :
    (¬∀ (client : Client) (project provider roleId project' provider' roleId' : String)
        (request other : Request), (project, provider, roleId) ≠ (project', provider', roleId') →
      client.request (.deauthorizeRole project roleId provider) = .ok request →
      client.request (.deauthorizeRole project' roleId' provider') = .ok other →
      request.url.path ≠ other.url.path) ∧
    ¬∀ (client : Client) (project endpointId project' endpointId' : String)
        (request other : Request), (project, endpointId) ≠ (project', endpointId') →
      client.request (.deleteEndpoint project endpointId) = .ok request →
      client.request (.deleteEndpoint project' endpointId') = .ok other →
      request.url.path ≠ other.url.path := by
  constructor
  · intro h
    refine h ⟨"http://cloud", none⟩ "p" "AWS" "a/b" "p" "AWS/a" "b" _ _ (by decide) (by cbv)
      (by cbv) ?_
    rfl
  · intro h
    refine h ⟨"http://cloud", none⟩ "p1" "../../../p2/privateNetworkSettings/endpointIds/e" "p2"
      "e" _ _ (by decide) (by cbv) (by cbv) ?_
    rfl

end Call

end CloudSteward
