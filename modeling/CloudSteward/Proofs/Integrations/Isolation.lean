import CloudSteward.Proofs.Integrations.Conservation
import CloudSteward.Proofs.Integrations.Soundness

/-!
# The items of a pass do not touch each other

Which calls a pass makes over integrations is settled by linking, before the first of
them is made (`plan`): one at most for each declared integration, and then one for each
surplus role.  No reply changes the plan.  A reply is read by the step that asked for
it and by no other, so a run falls into shares, one for each status (`Isolated`), and
two runs that give a share the same reply end with the same status there, whatever the
other replies were (`isolated_runs`).

The decomposition follows the list of statuses: first those that stand for declared
integrations, which every step keeps (`Stepped.exists_standsFor`), then the removals, of
which those that failed are left (`exists_replies_of_trace`).
-/

namespace CloudSteward.Integrations

open Linking MemoryCloud

variable {project : String} {desired : List Integration} {remote : List Role}
  {exchanges : List Exchange} {outputs : List Status}

/-- The calls of a run, in their order: linking gives the statuses of the declared
integrations, and then a removal for each surplus role (`Linking.statuses_eq`). -/
def plan (project : String) (desired : List Integration) (remote : List Role) : List Call :=
  (placed desired remote).filterMap (callOf? project) ++
    (surplus desired remote).map fun role => .deauthorizeRole project role.roleId role.provider

/-- What a run has to do with one declared integration: the calls made for it, with the
replies, and what became of its status. -/
structure Share where
  exchanges : List Exchange
  output : Status

/-- How a run falls apart into the shares of the declared integrations and the replies
about the surplus roles. -/
structure Isolated (project : String) (desired : List Integration) (remote : List Role)
    (shares : List Share) (replies : List (Except CloudError Unit)) (exchanges : List Exchange)
    (outputs : List Status) : Prop where
  /-- The status of each declared integration makes one step, with its own reply. -/
  stepped : List.Forall₂
    (fun status share => Stepped project status share.exchanges (some share.output))
    (placed desired remote) shares
  /-- It goes on to stand for the integration. -/
  entries : List.Forall₂ (fun integration share => StandsFor integration share.output)
    desired shares
  /-- The removal of each surplus role is asked for once. -/
  asked : replies.length = (surplus desired remote).length
  exchanges_eq : exchanges = shares.flatMap Share.exchanges ++
    List.zipWith (fun role reply => ⟨.deauthorizeRole project role.roleId role.provider, reply⟩)
      (surplus desired remote) replies
  /-- The declared integrations come first, and then the removals that failed. -/
  outputs_eq : outputs = shares.map Share.output ++
    ((surplus desired remote).zip replies).filterMap fun removal =>
      afterRemove (Status.removal removal.1) removal.2

/-! ## Shares -/

/-- A step never drops the status of a declared integration. -/
theorem Stepped.exists_standsFor {integration : Integration} {status : Status}
    {own : List Exchange} {output : Option Status} (h : Stepped project status own output)
    (hstands : StandsFor integration status) :
    ∃ after, output = some after ∧ StandsFor integration after := by
  cases h.ended with
  | rested => exact ⟨status, rfl, hstands⟩
  | linked role => exact ⟨_, rfl, hstands.linked role⟩
  | failed phase error _ _ hremoval =>
      have hkept : phase.isRemoval = false :=
        Bool.eq_false_iff.mpr (mt hremoval.mp hstands.move_ne_remove)
      exact ⟨_, rfl, hstands.provider_eq, hstands.arn_eq, hkept⟩
  | removed hmove => exact absurd hmove hstands.move_ne_remove

/-- The part of a run that drives the statuses of declared integrations falls into
shares. -/
theorem exists_shares_of_trace {declared rest : List Status}
    (hstands : List.Forall₂ StandsFor desired declared)
    (h : (stepAll project (declared ++ rest)).Trace exchanges outputs) :
    ∃ shares behind others,
      List.Forall₂ (fun status share => Stepped project status share.exchanges (some share.output))
        declared shares ∧
      List.Forall₂ (fun integration share => StandsFor integration share.output) desired shares ∧
      exchanges = shares.flatMap Share.exchanges ++ behind ∧
      outputs = shares.map Share.output ++ others ∧
      (stepAll project rest).Trace behind others := by
  induction hstands generalizing exchanges outputs with
  | nil => exact ⟨[], exchanges, outputs, .nil, .nil, rfl, rfl, h⟩
  | @cons integration status _ _ hfirst _ ih =>
      obtain ⟨own, behind, output, others, rfl, rfl, hstep, hrest⟩ := trace_stepAll_cons_iff.mp h
      obtain ⟨shares, last, left, hstepped, hentries, rfl, rfl, hlast⟩ := ih hrest
      have hown := trace_step hstep
      obtain ⟨after, rfl, hafter⟩ := hown.exists_standsFor hfirst
      refine ⟨⟨own, after⟩ :: shares, last, left, .cons hown hstepped, .cons hafter hentries, ?_,
        rfl, hlast⟩
      rw [List.flatMap_cons, List.append_assoc]

/-- The part of a run that removes roles asks for each of them once, and keeps those
that the cloud did not remove. -/
theorem exists_replies_of_trace {roles : List Role}
    (h : (stepAll project (roles.map Status.removal)).Trace exchanges outputs) :
    ∃ replies : List (Except CloudError Unit), replies.length = roles.length ∧
      exchanges = List.zipWith
        (fun role reply => ⟨.deauthorizeRole project role.roleId role.provider, reply⟩)
        roles replies ∧
      outputs = (roles.zip replies).filterMap fun removal =>
        afterRemove (Status.removal removal.1) removal.2 := by
  induction roles generalizing exchanges outputs with
  | nil =>
      obtain ⟨rfl, rfl⟩ := Program.trace_done_iff.mp h
      exact ⟨[], rfl, rfl, rfl⟩
  | cons role rest ih =>
      obtain ⟨own, behind, output, others, rfl, rfl, hstep, hrest⟩ := trace_stepAll_cons_iff.mp h
      obtain ⟨replies, hlength, rfl, rfl⟩ := ih hrest
      cases trace_step hstep with
      | rested hmove => simp at hmove
      | created reply hmove => simp at hmove
      | authorized reply hmove => simp at hmove
      | removed reply _ =>
          refine ⟨reply :: replies, congrArg Nat.succ hlength, rfl, ?_⟩
          rw [List.zip_cons_cons, List.filterMap_cons]
          cases reply <;> rfl

/-- Every run falls apart into shares. -/
theorem exists_isolated (h : (sync project desired remote).Trace exchanges outputs) :
    ∃ shares replies, Isolated project desired remote shares replies exchanges outputs := by
  unfold sync at h
  rw [statuses_eq] at h
  obtain ⟨shares, behind, others, hstepped, hentries, rfl, rfl, hrest⟩ :=
    exists_shares_of_trace (forall₂_standsFor desired remote) h
  obtain ⟨replies, hlength, rfl, rfl⟩ := exists_replies_of_trace hrest
  exact ⟨shares, replies, hstepped, hentries, hlength, rfl, rfl⟩

/-! ## Two runs -/

theorem questions_of_shares {statuses : List Status} {shares : List Share}
    (h : List.Forall₂
      (fun status share => Stepped project status share.exchanges (some share.output))
      statuses shares) :
    (shares.flatMap Share.exchanges).map Program.Exchange.question =
      statuses.filterMap (callOf? project) := by
  induction h with
  | nil => rfl
  | @cons status share _ _ hfirst _ ih =>
      rw [List.flatMap_cons, List.map_append, ih, hfirst.questions_eq, List.filterMap_cons]
      cases callOf? project status <;> rfl

theorem questions_of_replies {roles : List Role} {replies : List (Except CloudError Unit)}
    (hlength : replies.length = roles.length) :
    (List.zipWith (fun role reply =>
        (⟨.deauthorizeRole project role.roleId role.provider, reply⟩ : Exchange))
      roles replies).map Program.Exchange.question =
      roles.map fun role => .deauthorizeRole project role.roleId role.provider := by
  rw [List.map_zipWith]
  show List.zipWith (fun role _ => Call.deauthorizeRole project role.roleId role.provider)
    roles replies = _
  induction roles generalizing replies with
  | nil => rfl
  | cons role rest ih =>
      cases replies with
      | nil => cases hlength
      | cons reply others =>
          rw [List.zipWith_cons_cons, ih (Nat.succ.inj hlength)]
          rfl

/-- The calls of a run are those of the plan. -/
theorem Isolated.questions_eq {shares : List Share} {replies : List (Except CloudError Unit)}
    (h : Isolated project desired remote shares replies exchanges outputs) :
    exchanges.map Program.Exchange.question = plan project desired remote := by
  rw [h.exchanges_eq, List.map_append, questions_of_shares h.stepped, questions_of_replies h.asked]
  rfl

/-- What becomes of a status depends on its own reply only. -/
theorem forall₂_output_eq {statuses : List Status} {shares others : List Share}
    (hfirst : List.Forall₂
      (fun status share => Stepped project status share.exchanges (some share.output))
      statuses shares)
    (hsecond : List.Forall₂
      (fun status share => Stepped project status share.exchanges (some share.output))
      statuses others) :
    List.Forall₂ (fun share other => share.exchanges = other.exchanges →
      share.output = other.output) shares others := by
  induction hfirst generalizing others with
  | nil =>
      cases hsecond
      exact .nil
  | cons hone _ ih =>
      cases hsecond with
      | cons hother hrest =>
          refine .cons (fun hsame => ?_) (ih hrest)
          rw [hsame] at hone
          exact Option.some.inj (hone.unique hother)

/-- Two runs over the same integrations and roles, with whatever replies, make the same
calls in the same order.  Both keep every declared integration, in order, and behind
these exactly the removals that failed; and where an integration got the same reply in
both, the same became of it. -/
theorem isolated_runs {first second : List Exchange} {firstOutputs secondOutputs : List Status}
    (hfirst : (sync project desired remote).Trace first firstOutputs)
    (hsecond : (sync project desired remote).Trace second secondOutputs) :
    first.map Program.Exchange.question = plan project desired remote ∧
      second.map Program.Exchange.question = plan project desired remote ∧
      ∃ firstShares firstReplies secondShares secondReplies,
        Isolated project desired remote firstShares firstReplies first firstOutputs ∧
        Isolated project desired remote secondShares secondReplies second secondOutputs ∧
        List.Forall₂ (fun share other => share.exchanges = other.exchanges →
          share.output = other.output) firstShares secondShares := by
  obtain ⟨firstShares, firstReplies, hone⟩ := exists_isolated hfirst
  obtain ⟨secondShares, secondReplies, htwo⟩ := exists_isolated hsecond
  exact ⟨hone.questions_eq, htwo.questions_eq, firstShares, firstReplies, secondShares,
    secondReplies, hone, htwo, forall₂_output_eq hone.stepped htwo.stepped⟩

/-- A client that agrees to every change of a role, but shows roles without a date. -/
def dateless (call : Call) : StateM Unit call.Reply :=
  match call with
  | .createRole _ provider => pure (.ok (bareRole provider "created" ""))
  | .authorizeRole _ roleId provider arn => pure (.ok (bareRole provider roleId arn))
  | .deauthorizeRole _ _ _ => pure (.ok ())
  | _ => pure (.error (.transport .bodyCut))

/-- Against the mixed cloud both integrations get authorized, and against the client
without dates one of them does not; the calls are the same. -/
theorem isolated_mixed_runs :
    ∃ first firstOutputs second secondOutputs,
      (sync "p" twoRoles.spec.declared (mixedCloud.rolesOf "p")).Trace first firstOutputs ∧
      (sync "p" twoRoles.spec.declared (mixedCloud.rolesOf "p")).Trace second secondOutputs ∧
      firstOutputs.map Status.phase = [.authorized, .authorized] ∧
      secondOutputs.map Status.phase = [.created, .authorized] ∧
      first.map Program.Exchange.question = second.map Program.Exchange.question := by
  obtain ⟨first, hfirst, _⟩ :=
    execution_run (sync "p" twoRoles.spec.declared (mixedCloud.rolesOf "p")) mixedCloud
  obtain ⟨second, hsecond⟩ := Program.exists_trace_of_run dateless
    (sync "p" twoRoles.spec.declared (mixedCloud.rolesOf "p")) ()
  obtain ⟨hone, htwo, _⟩ := isolated_runs hfirst hsecond
  refine ⟨first, _, second, _, hfirst, hsecond, ?_, ?_, hone.trans htwo.symm⟩
  · cbv
  · cbv

end CloudSteward.Integrations
