import CloudSteward.Proofs.Conditions
import Mathlib.Data.List.DropRight

/-!
# The history behind the conditions

Conditions that started empty can be told from the updates that were made, oldest first.  What
counts of a kind are the settings since it was removed last (`standing`): without any it has no
condition, the latest of them says what its condition shows, and the run of the latest ones with
one status (`sustained`) began when the condition took that status.  The conditions stand in the
order in which the first of these settings were made (`Opening`).

Each of these observations is followed through one update more, which either sets a condition or
removes it (`Update.apply_of_some`, `Update.apply_of_none`), by induction on the history from its
end.  `chronicle_replay` puts them together.
-/

namespace CloudSteward.Conditions

/-! ## Histories -/

/-- What is done with the condition of a kind. -/
inductive Change where
  | set (status : Bool) (reason message : Option String)
  | publish (result : PassResult)
  | confirm (message : String)
  | deny
  | unset

/-- A change to the condition of a kind at some moment. -/
structure Update where
  now : Moment
  kind : ConditionKind
  change : Change

/-- What a condition shows apart from its time. -/
structure Content where
  status : Bool
  reason : Option String
  message : Option String
deriving DecidableEq

/-- What a change is to show; nothing if it removes the condition. -/
def Change.content? : Change → Option Content
  | .set status reason message => some ⟨status, reason, message⟩
  | .publish result =>
      match result.outcome with
      | .ok => some ⟨true, none, none⟩
      | .inProgress reason message => some ⟨false, some reason.text, some message⟩
      | .terminate reason message => some ⟨false, some reason.text, some message⟩
  | .confirm message => some ⟨true, none, if message = "" then none else some message⟩
  | .deny => some ⟨false, none, none⟩
  | .unset => none

namespace Update

def content? (update : Update) : Option Content :=
  update.change.content?

/-- Whether an update sets a condition. -/
def isSet (update : Update) : Bool :=
  update.content?.isSome

def apply (conditions : Conditions) (update : Update) : Conditions :=
  match update.change with
  | .set status reason message => conditions.set update.now update.kind status reason message
  | .publish result => conditions.publish update.now update.kind result
  | .confirm message => conditions.confirm update.now update.kind message
  | .deny => conditions.deny update.now update.kind
  | .unset => conditions.unset update.kind

end Update

/-- The conditions after some updates, of which the oldest comes first. -/
def replay (history : List Update) : Conditions :=
  history.foldl Update.apply .empty

/-- The settings of a kind since it was removed last. -/
def standing (kind : ConditionKind) (history : List Update) : List Update :=
  (history.filter fun update => update.kind = kind).rtakeWhile Update.isSet

/-- The latest of them, as long as they gave the same status. -/
def sustained (status : Bool) (kind : ConditionKind) (history : List Update) : List Update :=
  (standing kind history).rtakeWhile fun update => update.content?.map Content.status = some status

/-- What came before the first setting of a kind since it was removed last. -/
def Opening (history : List Update) (kind : ConditionKind) (before : List Update) : Prop :=
  ∃ first later, history = before ++ first :: later ∧ first.kind = kind ∧ first.isSet = true ∧
    standing kind before = [] ∧ ∀ update ∈ later, update.kind = kind → update.isSet = true

/-- Whether the first setting of one kind came before that of another. -/
def OpensBefore (history : List Update) (early late : ConditionKind) : Prop :=
  ∃ before between, Opening history early before ∧ Opening history late between ∧
    before.length < between.length

variable {conditions : Conditions} {kind other : ConditionKind} {history : List Update}
  {update : Update} {content : Content}

/-! ## One update -/

namespace Update

theorem apply_of_some (h : update.content? = some content) :
    update.apply conditions =
      conditions.set update.now update.kind content.status content.reason content.message := by
  obtain ⟨now, kind, change⟩ := update
  cases change with
  | set | confirm | deny =>
      obtain rfl := Option.some.inj h
      rfl
  | publish result =>
      obtain ⟨outcome, retryable, warning⟩ := result
      cases outcome <;> obtain rfl := Option.some.inj h <;> rfl
  | unset => cases h

theorem apply_of_none (h : update.content? = none) :
    update.apply conditions = conditions.unset update.kind := by
  obtain ⟨now, kind, change⟩ := update
  cases change with
  | unset => rfl
  | publish result =>
      obtain ⟨outcome, retryable, warning⟩ := result
      cases outcome <;> cases h
  | set | confirm | deny => cases h

theorem isSet_of_some (h : update.content? = some content) : update.isSet = true := by
  rw [isSet, h, Option.isSome_some]

theorem isSet_of_none (h : update.content? = none) : update.isSet = false := by
  rw [isSet, h, Option.isSome_none]

/-- An update leaves the conditions of the other kinds as they are, in their order. -/
theorem without_apply : (update.apply conditions).without update.kind =
    conditions.without update.kind := by
  cases hcontent : update.content? with
  | some content => rw [apply_of_some hcontent, without_set]
  | none => rw [apply_of_none hcontent, without_unset]

theorem get?_apply_of_ne (hkind : update.kind ≠ other) :
    (update.apply conditions).get? other = conditions.get? other := by
  cases hcontent : update.content? with
  | some content => rw [apply_of_some hcontent, get?_set_of_ne hkind]
  | none => rw [apply_of_none hcontent, get?_unset_of_ne hkind]

end Update

theorem replay_concat (history : List Update) (update : Update) :
    replay (history ++ [update]) = update.apply (replay history) :=
  List.foldl_concat _ _ _ _

/-! ## What stands of a history -/

theorem standing_concat_of_ne (hkind : update.kind ≠ kind) :
    standing kind (history ++ [update]) = standing kind history := by
  unfold standing
  rw [List.filter_append, List.filter_cons_of_neg (by simpa using hkind), List.filter_nil,
    List.append_nil]

theorem standing_concat_of_set (hset : update.isSet = true) :
    standing update.kind (history ++ [update]) = standing update.kind history ++ [update] := by
  unfold standing
  rw [List.filter_append, List.filter_cons_of_pos (by simp), List.filter_nil,
    List.rtakeWhile_concat_pos _ _ _ hset]

theorem standing_concat_of_unset (hset : update.isSet = false) :
    standing update.kind (history ++ [update]) = [] := by
  unfold standing
  rw [List.filter_append, List.filter_cons_of_pos (by simp), List.filter_nil,
    List.rtakeWhile_concat_neg _ _ _ (by simp [hset])]

theorem get?_replay_eq_none_iff :
    (replay history).get? kind = none ↔ standing kind history = [] := by
  induction history using List.reverseRecOn with
  | nil => exact iff_of_true rfl rfl
  | append_singleton history update ih =>
      rw [replay_concat]
      by_cases hkind : update.kind = kind
      · subst hkind
        cases hcontent : update.content? with
        | some content =>
            rw [Update.apply_of_some hcontent, get?_set_self,
              standing_concat_of_set (Update.isSet_of_some hcontent)]
            simp
        | none =>
            rw [Update.apply_of_none hcontent,
              standing_concat_of_unset (Update.isSet_of_none hcontent)]
            exact iff_of_true get?_unset_self rfl
      · rw [Update.get?_apply_of_ne hkind, standing_concat_of_ne hkind, ih]

/-! ## What a condition tells -/

/-- A condition shows the latest setting, and it has its time from the first one of those with
the same status. -/
structure Tells (history : List Update) (kind : ConditionKind) (condition : Condition) :
    Prop where
  latest : ∃ update, (standing kind history).getLast? = some update ∧
    update.content? = some ⟨condition.status, condition.reason, condition.message⟩
  since : ∃ update, (sustained condition.status kind history).head? = some update ∧
    condition.since = update.now

theorem sustained_concat (hcontent : update.content? = some content) :
    sustained content.status update.kind (history ++ [update]) =
      sustained content.status update.kind history ++ [update] := by
  unfold sustained
  rw [standing_concat_of_set (Update.isSet_of_some hcontent),
    List.rtakeWhile_concat_pos _ _ _ (by simp [hcontent])]

/-- A status that is not the latest was not given by any of the latest settings. -/
theorem Tells.sustained_eq_nil {condition : Condition} (h : Tells history kind condition)
    {status : Bool} (hstatus : condition.status ≠ status) : sustained status kind history = [] := by
  obtain ⟨latest, hlatest, hcontent⟩ := h.latest
  unfold sustained
  rw [List.rtakeWhile_eq_nil_iff]
  intro hne
  rw [List.getLast?_eq_some_getLast hne] at hlatest
  rw [Option.some.inj hlatest, hcontent]
  simpa using hstatus

/-- The condition of a setting takes its time from the run of settings that it continues. -/
theorem tells_set (hcontent : update.content? = some content)
    (hnone : conditions.get? update.kind = none → standing update.kind history = [])
    (hsome : ∀ condition, conditions.get? update.kind = some condition →
      Tells history update.kind condition) :
    Tells (history ++ [update]) update.kind ⟨update.kind, content.status, content.reason,
      content.message, sinceOf (conditions.get? update.kind) content.status update.now⟩ where
  latest := by
    refine ⟨update, ?_, hcontent⟩
    rw [standing_concat_of_set (Update.isSet_of_some hcontent), List.getLast?_concat]
  since := by
    rw [sustained_concat hcontent]
    cases hget : conditions.get? update.kind with
    | none =>
        have hnil : sustained content.status update.kind history = [] := by
          rw [sustained, hnone hget, List.rtakeWhile_nil]
        exact ⟨update, by rw [hnil]; rfl, rfl⟩
    | some condition =>
        have htells := hsome condition hget
        by_cases hstatus : condition.status = content.status
        · obtain ⟨first, hfirst, hsince⟩ := htells.since
          refine ⟨first, ?_, ?_⟩
          · rw [← hstatus, List.head?_append, hfirst, Option.some_or]
          · rw [sinceOf, if_pos hstatus, hsince]
        · refine ⟨update, ?_, ?_⟩
          · rw [htells.sustained_eq_nil hstatus]
            rfl
          · rw [sinceOf, if_neg hstatus]

theorem tells_replay {condition : Condition} (h : (replay history).get? kind = some condition) :
    Tells history kind condition := by
  induction history using List.reverseRecOn generalizing condition with
  | nil => cases h
  | append_singleton history update ih =>
      rw [replay_concat] at h
      by_cases hkind : update.kind = kind
      · subst hkind
        cases hcontent : update.content? with
        | some content =>
            rw [Update.apply_of_some hcontent, get?_set_self] at h
            obtain rfl := Option.some.inj h
            exact tells_set hcontent get?_replay_eq_none_iff.mp fun _ => ih
        | none =>
            rw [Update.apply_of_none hcontent, get?_unset_self] at h
            cases h
      · rw [Update.get?_apply_of_ne hkind] at h
        obtain ⟨hlatest, hsince⟩ := ih h
        refine ⟨?_, ?_⟩
        · rwa [standing_concat_of_ne hkind]
        · rwa [sustained, standing_concat_of_ne hkind]

/-! ## The order of the conditions -/

theorem Opening.concat {before : List Update} (h : Opening history kind before)
    (hset : update.kind = kind → update.isSet = true) :
    Opening (history ++ [update]) kind before := by
  obtain ⟨first, later, rfl, hkind, hfirst, hbefore, hlater⟩ := h
  refine ⟨first, later ++ [update], by simp, hkind, hfirst, hbefore, ?_⟩
  intro other hmem
  rcases List.mem_append.mp hmem with hold | hnew
  · exact hlater other hold
  · obtain rfl := List.mem_singleton.mp hnew
    exact hset

theorem OpensBefore.concat {early late : ConditionKind} (h : OpensBefore history early late)
    (hearly : update.kind = early → update.isSet = true)
    (hlate : update.kind = late → update.isSet = true) :
    OpensBefore (history ++ [update]) early late := by
  obtain ⟨before, between, hbefore, hbetween, hlt⟩ := h
  exact ⟨before, between, hbefore.concat hearly, hbetween.concat hlate, hlt⟩

theorem opening_concat (hset : update.isSet = true) (hnil : standing update.kind history = []) :
    Opening (history ++ [update]) update.kind history :=
  ⟨update, [], rfl, rfl, hset, hnil, fun _ hmem => by cases hmem⟩

theorem Opening.length_lt {before : List Update} (h : Opening history kind before) :
    before.length < history.length := by
  obtain ⟨first, later, rfl, _⟩ := h
  simp

theorem exists_opening (h : standing kind history ≠ []) :
    ∃ before, Opening history kind before := by
  induction history using List.reverseRecOn with
  | nil => exact absurd rfl h
  | append_singleton history update ih =>
      by_cases hkind : update.kind = kind
      · subst hkind
        cases hset : update.isSet with
        | true =>
            by_cases hnil : standing update.kind history = []
            · exact ⟨history, opening_concat hset hnil⟩
            · obtain ⟨before, hbefore⟩ := ih hnil
              exact ⟨before, hbefore.concat fun _ => hset⟩
        | false => exact absurd (standing_concat_of_unset hset) h
      · rw [standing_concat_of_ne hkind] at h
        obtain ⟨before, hbefore⟩ := ih h
        exact ⟨before, hbefore.concat fun heq => absurd heq hkind⟩

theorem Opening.standing_ne_nil {before : List Update} (h : Opening history kind before) :
    standing kind history ≠ [] := by
  obtain ⟨first, later, rfl, hkind, hfirst, _, hlater⟩ := h
  intro hnil
  unfold standing at hnil
  rw [List.filter_append, List.filter_cons_of_pos (by simpa using hkind),
    List.rtakeWhile_eq_nil_iff] at hnil
  have hlast := hnil (List.append_ne_nil_of_right_ne_nil _ (List.cons_ne_nil _ _))
  rw [List.getLast_append_of_right_ne_nil _ _ (List.cons_ne_nil _ _)] at hlast
  -- The latest update of the kind is the opening or a later setting.
  rcases List.mem_cons.mp (List.getLast_mem (List.cons_ne_nil _ _)) with heq | hmem
  · exact hlast (heq ▸ hfirst)
  · obtain ⟨hrest, hsame⟩ := List.mem_filter.mp hmem
    exact hlast (hlater _ hrest (of_decide_eq_true hsame))

/-- What stands was opened once: before the first opening nothing stands, and before a second
one something would. -/
theorem Opening.length_le {before other : List Update} (h : Opening history kind before)
    (hother : Opening history kind other) : other.length ≤ before.length := by
  obtain ⟨first, later, rfl, hkind, hfirst, hbefore, hlater⟩ := h
  obtain ⟨second, rest, hsplit, _, _, hnil, _⟩ := hother
  by_contra hlt
  rcases List.append_eq_append_iff.mp hsplit with ⟨between, rfl, htail⟩ | ⟨between, rfl, _⟩
  · cases between with
    | nil => simp at hlt
    | cons next between =>
        obtain ⟨rfl, rfl⟩ := List.cons.inj htail
        have hopening : Opening (before ++ first :: between) kind before :=
          ⟨first, between, rfl, hkind, hfirst, hbefore,
            fun update hmem => hlater update (List.mem_append_left _ hmem)⟩
        exact hopening.standing_ne_nil hnil
  · simp at hlt

/-- No kind is opened before itself. -/
theorem OpensBefore.ne {early late : ConditionKind} (h : OpensBefore history early late) :
    early ≠ late := by
  rintro rfl
  obtain ⟨before, between, hbefore, hbetween, hlt⟩ := h
  exact absurd (hbefore.length_le hbetween) (Nat.not_le.mpr hlt)

/-- The kinds of some conditions, in their order. -/
def kinds (conditions : Conditions) : List ConditionKind :=
  conditions.entries.map Condition.kind

theorem mem_kinds_iff : kind ∈ conditions.kinds ↔ conditions.get? kind ≠ none := by
  simp [kinds, get?]

theorem kinds_put_of_mem {condition : Condition} {entries : List Condition}
    (h : condition.kind ∈ entries.map Condition.kind) :
    (put condition entries).map Condition.kind = entries.map Condition.kind := by
  induction entries with
  | nil => cases h
  | cons first rest ih =>
      simp only [put]
      split
      case isTrue hfirst => rw [List.map_cons, List.map_cons, hfirst]
      case isFalse hfirst =>
        rcases List.mem_cons.mp h with hkind | hrest
        · exact absurd hkind.symm hfirst
        · rw [List.map_cons, List.map_cons, ih hrest]

theorem kinds_put_of_not_mem {condition : Condition} {entries : List Condition}
    (h : condition.kind ∉ entries.map Condition.kind) :
    (put condition entries).map Condition.kind =
      entries.map Condition.kind ++ [condition.kind] := by
  induction entries with
  | nil => rfl
  | cons first rest ih =>
      obtain ⟨hfirst, hrest⟩ := not_or.mp (mt List.mem_cons.mpr h)
      rw [put, if_neg (Ne.symm hfirst), List.map_cons, ih hrest, List.map_cons, List.cons_append]

theorem kinds_set_of_mem {now : Moment} {status : Bool} {reason message : Option String}
    (h : kind ∈ conditions.kinds) :
    (conditions.set now kind status reason message).kinds = conditions.kinds :=
  kinds_put_of_mem h

theorem kinds_set_of_not_mem {now : Moment} {status : Bool} {reason message : Option String}
    (h : kind ∉ conditions.kinds) :
    (conditions.set now kind status reason message).kinds = conditions.kinds ++ [kind] :=
  kinds_put_of_not_mem h

theorem kinds_unset : (conditions.unset kind).kinds = conditions.kinds.filter (· ≠ kind) := by
  unfold kinds unset
  rw [List.filter_map]
  rfl

/-- An update that sets a condition opens its kind unless it stands already, and one that
removes a condition leaves the others in their order. -/
theorem pairwise_kinds_replay (history : List Update) :
    (replay history).kinds.Pairwise (OpensBefore history) := by
  induction history using List.reverseRecOn with
  | nil => exact .nil
  | append_singleton history update ih =>
      rw [replay_concat]
      cases hcontent : update.content? with
      | some content =>
          have hset := Update.isSet_of_some hcontent
          have hold : (replay history).kinds.Pairwise (OpensBefore (history ++ [update])) :=
            ih.imp fun h => h.concat (fun _ => hset) fun _ => hset
          rw [Update.apply_of_some hcontent]
          by_cases hmem : update.kind ∈ (replay history).kinds
          · rwa [kinds_set_of_mem hmem]
          · have hnil : standing update.kind history = [] :=
              get?_replay_eq_none_iff.mp (not_not.mp (mt mem_kinds_iff.mpr hmem))
            rw [kinds_set_of_not_mem hmem]
            refine List.pairwise_append.mpr ⟨hold, List.pairwise_singleton _ _, ?_⟩
            intro early hearly late hlate
            obtain rfl := List.mem_singleton.mp hlate
            -- What stands already was opened by an earlier update than this one.
            obtain ⟨before, hbefore⟩ :=
              exists_opening (mt get?_replay_eq_none_iff.mpr (mem_kinds_iff.mp hearly))
            exact ⟨before, history, hbefore.concat fun _ => hset, opening_concat hset hnil,
              hbefore.length_lt⟩
      | none =>
          rw [Update.apply_of_none hcontent, kinds_unset]
          refine (ih.filter _).imp_of_mem fun {early late} hearly hlate h => ?_
          have hne {kind : ConditionKind}
              (hkind : kind ∈ (replay history).kinds.filter (· ≠ update.kind)) :
              update.kind ≠ kind :=
            (of_decide_eq_true (List.mem_filter.mp hkind).2).symm
          exact h.concat (fun heq => absurd heq (hne hearly)) fun heq => absurd heq (hne hlate)

/-! ## The chronicle -/

/-- What conditions tell of the updates that led to them. -/
structure Chronicle (history : List Update) (conditions : Conditions) : Prop where
  distinct : conditions.kinds.Nodup
  ordered : conditions.kinds.Pairwise (OpensBefore history)
  absent_iff : ∀ kind, conditions.get? kind = none ↔ standing kind history = []
  present : ∀ kind condition, conditions.get? kind = some condition → Tells history kind condition
  others : ∀ update : Update,
    (update.apply conditions).without update.kind = conditions.without update.kind

theorem chronicle_replay (history : List Update) : Chronicle history (replay history) where
  distinct := (pairwise_kinds_replay history).imp OpensBefore.ne
  ordered := pairwise_kinds_replay history
  absent_iff _ := get?_replay_eq_none_iff
  present _ _ := tells_replay
  others _ := Update.without_apply

/-- The time goes back to the flip, and not to the settings before the removal. -/
example (early removal flip late : Moment) :
    replay [⟨early, .ready, .confirm ""⟩, ⟨early, .federatedAuthReady, .deny⟩,
      ⟨removal, .ready, .unset⟩, ⟨removal, .ready, .deny⟩, ⟨flip, .ready, .confirm ""⟩,
      ⟨late, .ready, .confirm "done"⟩] =
        ⟨[⟨.federatedAuthReady, false, none, none, early⟩,
          ⟨.ready, true, none, some "done", flip⟩]⟩ := by
  rfl

end CloudSteward.Conditions
