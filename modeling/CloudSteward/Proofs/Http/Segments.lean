import CloudSteward.Http.Request
import CloudSteward.Proofs.Http.Percent
import Mathlib.Data.List.TakeWhile

/-!
# Segments that stand for themselves

A path that is put behind an address is read together with it: what is around the whole is
dropped, some characters end a segment or the path, and dotted segments are resolved.  A segment
that has none of these marks stands for itself (`IsSegment`), and where all segments do, the path
of the whole address is one that depends on the front alone, with the segments behind it, each
encoded by itself (`exists_path_parse?`).  They can be told from it, as an encoding has no slash
of its own (`joined_injective`).
-/

namespace CloudSteward.Http.Url

/-! ## Segments -/

/-- Segments with a slash before each. -/
def joined (segments : List (List Char)) : List Char :=
  segments.flatMap fun segment => '/' :: segment

theorem joined_append (front back : List (List Char)) :
    joined (front ++ back) = joined front ++ joined back :=
  List.flatMap_append

theorem mem_joined {segments : List (List Char)} {c : Char} (h : c ∈ joined segments) :
    c = '/' ∨ ∃ segment ∈ segments, c ∈ segment := by
  obtain ⟨segment, hsegment, hc⟩ := List.mem_flatMap.mp h
  exact (List.mem_cons.mp hc).imp id fun hmem => ⟨segment, hsegment, hmem⟩

/-- The characters that a segment does not survive: they end it, end the path, or are dropped. -/
def breaks : List Char := ['/', '\\', '?', '#', '\t', '\n', '\r']

/-- Whether a segment is none of the two dotted ones, however these are spelled. -/
def Undotted (segment : List Char) : Prop :=
  plainDots segment ≠ ['.'] ∧ plainDots segment ≠ ['.', '.']

instance (segment : List Char) : Decidable (Undotted segment) :=
  inferInstanceAs (Decidable (_ ∧ _))

/-- Whether a segment stands for itself in a path. -/
structure IsSegment (segment : List Char) : Prop where
  unbroken : ∀ c ∈ segment, c ∉ breaks
  undotted : Undotted segment

theorem isSegment_iff {segment : List Char} :
    IsSegment segment ↔ segment.all (fun c => !breaks.contains c) = true ∧ Undotted segment := by
  rw [List.all_eq_true]
  simp only [Bool.not_eq_true', List.contains_eq_mem, decide_eq_false_iff_not]
  exact ⟨fun h => ⟨h.unbroken, h.undotted⟩, fun h => ⟨h.1, h.2⟩⟩

instance (segment : List Char) : Decidable (IsSegment segment) :=
  decidable_of_iff' _ isSegment_iff

theorem IsSegment.of_mem {segment : List Char} (h : IsSegment segment) {c : Char}
    (hc : c ∈ segment) :
    isSlash c = false ∧ endsPath c = false ∧ c ≠ '\t' ∧ c ≠ '\n' ∧ c ≠ '\r' := by
  simpa [breaks, isSlash, endsPath, and_assoc] using h.unbroken c hc

/-! ## Where an address is cut -/

section

variable {p : Char → Bool} {c : Char}

theorem dropWhile_append_cons (hc : p c = false) (front rest : List Char) :
    (front ++ c :: rest).dropWhile p = front.dropWhile p ++ c :: rest := by
  induction front with
  | nil => simp [hc]
  | cons first front ih =>
      by_cases hfirst : p first = true
      · simp [hfirst, ih]
      · simp [hfirst]

theorem takeWhile_append_cons (hc : p c = false) (front rest : List Char) :
    (front ++ c :: rest).takeWhile p = front.takeWhile p := by
  induction front with
  | nil => simp [hc]
  | cons first front ih =>
      by_cases hfirst : p first = true
      · simp [hfirst, ih]
      · simp [hfirst]

end

/-- What is left of a text that something is appended to. -/
def kept (front : List Char) : List Char :=
  (dropControls front).filter fun c => !(c = '\t' || c = '\n' || c = '\r')

theorem kept_subset (front : List Char) : kept front ⊆ front :=
  fun _ hc => (List.dropWhile_sublist _).subset (List.mem_filter.mp hc).1

/-- Behind a slash nothing is dropped, if there is nothing to drop. -/
theorem cleaned_append (front : List Char) {rest : List Char}
    (hkept : ∀ c ∈ rest, c ≠ '\t' ∧ c ≠ '\n' ∧ c ≠ '\r')
    (hlast : ∀ c ∈ ('/' :: rest).getLast?, 0x20 < c.toNat) :
    cleaned (front ++ '/' :: rest) = kept front ++ '/' :: rest := by
  have hfront : dropControls (front ++ '/' :: rest) = dropControls front ++ '/' :: rest :=
    dropWhile_append_cons (by decide) front rest
  have hend : dropControls (dropControls front ++ '/' :: rest).reverse =
      (dropControls front ++ '/' :: rest).reverse := by
    have hne : '/' :: rest ≠ [] := List.cons_ne_nil _ _
    have hkept := hlast _ (List.getLast?_eq_some_getLast hne)
    rw [← List.dropLast_concat_getLast hne, ← List.append_assoc, List.reverse_concat]
    exact List.dropWhile_cons_of_neg (by simpa using hkept)
  have hall : ('/' :: rest).filter (fun c => !(c = '\t' || c = '\n' || c = '\r')) =
      '/' :: rest := by
    rw [List.filter_eq_self]
    intro c hc
    obtain rfl | hc := List.mem_cons.mp hc
    · decide
    · simp [hkept c hc]
  rw [cleaned, hfront, hend, List.reverse_reverse, List.filter_append, hall, kept]

/-- The scheme of an address stands before its first slash. -/
theorem splitScheme_append (front rest : List Char) :
    splitScheme (front ++ '/' :: rest) =
      (splitScheme front).map fun (scheme, behind) => (scheme, behind ++ '/' :: rest) := by
  cases front with
  | nil => rfl
  | cons c front =>
      by_cases hletter : c.isAlpha = true
      · have hslash : isSchemeChar '/' = false := by decide
        rw [List.cons_append, splitScheme, splitScheme, if_pos hletter, if_pos hletter,
          takeWhile_append_cons hslash, dropWhile_append_cons hslash]
        cases front.dropWhile isSchemeChar with
        | nil => rfl
        | cons mark behind =>
            by_cases hcolon : mark = ':'
            · subst hcolon
              rfl
            · simp [hcolon]
      · rw [List.cons_append, splitScheme, splitScheme, if_neg hletter, if_neg hletter]
        rfl

theorem subset_of_splitScheme {cs behind : List Char} {scheme : String}
    (h : splitScheme cs = some (scheme, behind)) : behind ⊆ cs := by
  cases cs with
  | nil => cases h
  | cons c rest =>
      rw [splitScheme] at h
      split at h
      case isFalse => cases h
      case isTrue =>
        simp only at h
        split at h
        case h_1 found hfound =>
          cases h
          intro d hd
          refine List.mem_cons_of_mem c ((List.dropWhile_sublist isSchemeChar).subset ?_)
          rw [hfound]
          exact List.mem_cons_of_mem _ hd
        case h_2 => cases h

/-! ## Paths of addresses -/

/-- The segments that are left behind a segment that is not the last one. -/
def passed (outer : List (List Char)) (segment : List Char) : List (List Char) :=
  if plainDots segment = ['.', '.'] then leave outer
  else if plainDots segment = ['.'] then outer
  else segment :: outer

theorem resolveDots_cons (outer : List (List Char)) (segment : List Char)
    {rest : List (List Char)} (hrest : rest ≠ []) :
    resolveDots outer (segment :: rest) = resolveDots (passed outer segment) rest := by
  rw [resolveDots, passed]
  · split
    · rfl
    · split <;> rfl
  · exact hrest

theorem resolveDots_of_undotted {segments : List (List Char)}
    (hundotted : ∀ segment ∈ segments, Undotted segment) (outer : List (List Char)) :
    resolveDots outer segments = outer.reverse ++ segments := by
  induction segments generalizing outer with
  | nil => simp [resolveDots]
  | cons segment segments ih =>
      obtain ⟨⟨hdot, hdots⟩, hothers⟩ := List.forall_mem_cons.mp hundotted
      by_cases hlast : segments = []
      · subst hlast
        simp [resolveDots, hdot, hdots]
      · rw [resolveDots_cons outer segment hlast, ih hothers, passed, if_neg hdots, if_neg hdot]
        simp

/-- Dots in front of segments without dots leave these as they are. -/
theorem exists_resolveDots_append (front outer : List (List Char)) : ∃ inner,
    ∀ segments, segments ≠ [] → (∀ segment ∈ segments, Undotted segment) →
      resolveDots outer (front ++ segments) = inner ++ segments := by
  induction front generalizing outer with
  | nil =>
      exact ⟨outer.reverse, fun segments _ hundotted => resolveDots_of_undotted hundotted outer⟩
  | cons segment front ih =>
      obtain ⟨inner, hinner⟩ := ih (passed outer segment)
      refine ⟨inner, fun segments hsome hundotted => ?_⟩
      rw [List.cons_append, resolveDots_cons outer segment (by simp [hsome])]
      exact hinner segments hsome hundotted

/-- Segments that are joined are cut where they were joined. -/
theorem pieces_append_joined {isMark : Char → Bool} (hslash : isMark '/' = true)
    {segments : List (List Char)}
    (hplain : ∀ segment ∈ segments, ∀ c ∈ segment, isMark c = false) (front : List Char) :
    Text.pieces isMark (front ++ joined segments) = Text.pieces isMark front ++ segments := by
  induction segments generalizing front with
  | nil => simp [joined]
  | cons segment segments ih =>
      obtain ⟨hsegment, hothers⟩ := List.forall_mem_cons.mp hplain
      have hjoined : front ++ joined (segment :: segments) =
          (front ++ '/' :: segment) ++ joined segments := by
        simp [joined]
      rw [hjoined, ih hothers, Text.pieces_append_mark hslash, Text.pieces_of_forall_not hsegment,
        List.append_assoc, List.singleton_append]

theorem Undotted.encode {segment : List Char} (h : Undotted segment) :
    Undotted (encode pathMarks segment) := by
  have hdot : '.' ≠ '%' := by decide
  unfold Undotted
  rw [plainDots_encode]
  constructor
  · intro heq
    obtain ⟨others, hothers, hnil⟩ := exists_eq_cons_of_encode hdot heq
    rw [eq_nil_of_encode_eq_nil hnil] at hothers
    exact h.1 hothers
  · intro heq
    obtain ⟨others, hothers, hrest⟩ := exists_eq_cons_of_encode hdot heq
    obtain ⟨last, rfl, hnil⟩ := exists_eq_cons_of_encode hdot hrest
    rw [eq_nil_of_encode_eq_nil hnil] at hothers
    exact h.2 hothers

/-- Behind any text, segments that stand for themselves stay in the path as they are. -/
theorem exists_pathChars_append (front : List Char) : ∃ path, ∀ segments, segments ≠ [] →
    (∀ segment ∈ segments, IsSegment segment) →
      pathChars isSlash (front ++ joined segments) =
        path ++ joined (segments.map (encode pathMarks)) := by
  obtain ⟨inner, hinner⟩ :=
    exists_resolveDots_append ((Text.pieces isSlash front).map (encode pathMarks)) []
  refine ⟨joined inner, fun segments hsome hsegments => ?_⟩
  have hplain : ∀ segment ∈ segments, ∀ c ∈ segment, isSlash c = false := by
    intro segment hsegment c hc
    exact ((hsegments segment hsegment).of_mem hc).1
  rw [pathChars, Url.segments, pieces_append_joined (by decide) hplain, List.map_append,
    hinner _ (by simpa using hsome)]
  · exact joined_append inner _
  · intro segment hsegment
    obtain ⟨plain, hmem, rfl⟩ := List.mem_map.mp hsegment
    exact (hsegments plain hmem).undotted.encode

theorem path_of_ofWeb? {scheme : String} {cs : List Char} {url : Url}
    (h : ofWeb? scheme cs = some url) :
    url.path = String.ofList (pathChars isSlash
      (((cs.dropWhile fun c => !(isSlash c || endsPath c)).takeWhile fun c => !endsPath c).drop
        1)) := by
  obtain ⟨authority, -, hurl⟩ := Option.bind_eq_some_iff.mp h
  cases hurl
  rfl

theorem scheme_of_ofFile? {cs : List Char} {url : Url} (h : ofFile? cs = some url) :
    url.scheme = "file" := by
  simp only [ofFile?] at h
  split at h
  case isTrue =>
    obtain ⟨host, -, hurl⟩ := Option.bind_eq_some_iff.mp h
    cases hurl
    rfl
  case isFalse =>
    cases h
    rfl

theorem scheme_of_ofOther? {scheme : String} {cs : List Char} {url : Url}
    (h : ofOther? scheme cs = some url) : url.scheme = scheme := by
  simp only [ofOther?] at h
  split at h
  case h_1 =>
    obtain ⟨authority, -, hurl⟩ := Option.bind_eq_some_iff.mp h
    cases hurl
    rfl
  case h_2 =>
    cases h
    rfl
  case h_3 =>
    cases h
    rfl

/-- Without its user an address is the same but for who asks. -/
theorem exists_withoutUser_eq (url : Url) :
    ∃ authority, url.withoutUser.2 = { url with authority } := by
  unfold withoutUser
  split
  case h_1 => exact ⟨url.authority, rfl⟩
  case h_2 =>
    split
    case h_1 => exact ⟨url.authority, rfl⟩
    case h_2 =>
      simp only
      split
      case isTrue => exact ⟨url.authority, rfl⟩
      case isFalse => exact ⟨_, rfl⟩

/-- Requests are sent to two schemes only. -/
theorem scheme_of_isSendable {url : Url} (h : url.isSendable = true) :
    url.scheme = "http" ∨ url.scheme = "https" := by
  have hschemes := (Bool.and_eq_true_iff.mp (Bool.and_eq_true_iff.mp h).1).1
  simpa using hschemes

/-- Behind any text, segments that stand for themselves stay in the path of an address of the
web as they are. -/
theorem exists_path_ofWeb? {front back : List Char}
    (hopen : ∀ c ∈ front ++ back, endsPath c = false) :
    ∃ path, ∀ {scheme : String} {segments : List (List Char)} {url : Url}, segments ≠ [] →
      (∀ segment ∈ segments, IsSegment segment) →
      ofWeb? scheme (front ++ '/' :: (back ++ joined segments)) = some url →
        url.path = String.ofList (path ++ joined (segments.map (encode pathMarks))) := by
  -- What is left of the text in front of the path.
  obtain ⟨host, hhost⟩ : ∃ host, front.dropWhile (fun c => !(isSlash c || endsPath c)) = host :=
    ⟨_, rfl⟩
  obtain ⟨path, hpath⟩ := exists_pathChars_append ((host ++ ['/']).drop 1 ++ back)
  refine ⟨path, fun {scheme segments url} hsome hsegments hurl => ?_⟩
  have hwhole : ∀ c ∈ host ++ '/' :: (back ++ joined segments), (!endsPath c) = true := by
    intro c hc
    rw [Bool.not_eq_true']
    have hback : c ∈ back → endsPath c = false := fun hmem => hopen c (List.mem_append_right _ hmem)
    obtain hmem | hmem := List.mem_append.mp hc
    · have hfront := (List.dropWhile_sublist _).subset (hhost ▸ hmem)
      exact hopen c (List.mem_append_left _ hfront)
    · obtain rfl | hmem := List.mem_cons.mp hmem
      · decide
      · obtain hmem | hmem := List.mem_append.mp hmem
        · exact hback hmem
        · obtain rfl | ⟨segment, hsegment, hmem⟩ := mem_joined hmem
          · decide
          · exact ((hsegments segment hsegment).of_mem hmem).2.1
  have hdrop : (host ++ '/' :: (back ++ joined segments)).drop 1 =
      ((host ++ ['/']).drop 1 ++ back) ++ joined segments := by
    rw [List.append_cons, List.drop_append_of_le_length (by simp), List.append_assoc]
  rw [path_of_ofWeb? hurl, dropWhile_append_cons (by decide), hhost,
    List.takeWhile_eq_self_iff.mpr hwhole, hdrop, hpath segments hsome hsegments]

/-- Addresses to which requests can be sent are of the web. -/
theorem exists_ofWeb?_of_parse? {text : String} {url : Url} (hparse : parse? text = some url)
    (hscheme : url.scheme = "http" ∨ url.scheme = "https") :
    ∃ scheme behind, splitScheme (cleaned text.toList) = some (scheme, behind) ∧
      ofWeb? scheme (behind.dropWhile isSlash) = some url := by
  unfold parse? at hparse
  cases hsplit : splitScheme (cleaned text.toList) with
  | none =>
      rw [hsplit] at hparse
      cases hparse
  | some split =>
      obtain ⟨scheme, behind⟩ := split
      simp only [hsplit] at hparse
      refine ⟨scheme, behind, rfl, ?_⟩
      by_cases hweb : isWeb scheme = true
      · rw [if_pos hweb] at hparse
        exact hparse
      · rw [if_neg hweb] at hparse
        by_cases hfile : scheme = "file"
        · rw [if_pos hfile] at hparse
          rw [scheme_of_ofFile? hparse] at hscheme
          exact absurd hscheme (by decide)
        · rw [if_neg hfile] at hparse
          rw [scheme_of_ofOther? hparse] at hscheme
          obtain rfl | rfl := hscheme
          · exact absurd (by decide) hweb
          · exact absurd (by decide) hweb

theorem joined_ne_nil {segments : List (List Char)} (hsome : segments ≠ []) :
    joined segments ≠ [] := by
  cases segments with
  | nil => exact absurd rfl hsome
  | cons => exact List.cons_ne_nil _ _

/-- The scheme of a text that ends with segments that stand for themselves is that of the front,
and all that is behind the front is left. -/
theorem splitScheme_cleaned_append (front : List Char) {middle : List Char}
    {segments : List (List Char)} (hmiddle : ∀ c ∈ middle, c ≠ '\t' ∧ c ≠ '\n' ∧ c ≠ '\r')
    (hsome : segments ≠ []) (hsegments : ∀ segment ∈ segments, IsSegment segment)
    (hlast : ∀ c ∈ (joined segments).getLast?, 0x20 < c.toNat) :
    splitScheme (cleaned (front ++ '/' :: (middle ++ joined segments))) =
      (splitScheme (kept front)).map fun (scheme, behind) =>
        (scheme, behind ++ '/' :: (middle ++ joined segments)) := by
  rw [cleaned_append, splitScheme_append]
  · intro c hc
    obtain hc | hc := List.mem_append.mp hc
    · exact hmiddle c hc
    · obtain rfl | ⟨segment, hsegment, hc⟩ := mem_joined hc
      · decide
      · exact ((hsegments segment hsegment).of_mem hc).2.2
  · have hend : ('/' :: (middle ++ joined segments)).getLast? = (joined segments).getLast? := by
      rw [← List.cons_append, List.getLast?_append,
        List.getLast?_eq_some_getLast (joined_ne_nil hsome), Option.some_or]
    rw [hend]
    exact hlast

/-- The path of a text that ends with segments that stand for themselves, if it is an address to
which requests can be sent. -/
theorem exists_path_parse? {base : List Char} (hopen : ∀ c ∈ base, endsPath c = false) :
    ∃ path, ∀ {text : String} {segments : List (List Char)} {url : Url},
      text.toList = base ++ Client.interfacePath.toList ++ joined segments → segments ≠ [] →
      (∀ segment ∈ segments, IsSegment segment) →
      (∀ c ∈ (joined segments).getLast?, 0x20 < c.toNat) →
      parse? text = some url → (url.scheme = "http" ∨ url.scheme = "https") →
        url.path = String.ofList (path ++ joined (segments.map (encode pathMarks))) := by
  have hinterface : Client.interfacePath.toList = '/' :: "api/atlas/v2".toList := by decide
  -- Of the text in front of the interface only the base matters.
  have hsplits {text : String} {segments : List (List Char)}
      (htext : text.toList = base ++ Client.interfacePath.toList ++ joined segments)
      (hsome : segments ≠ []) (hsegments : ∀ segment ∈ segments, IsSegment segment)
      (hlast : ∀ c ∈ (joined segments).getLast?, 0x20 < c.toNat) :
      splitScheme (cleaned text.toList) = (splitScheme (kept base)).map fun (scheme, behind) =>
        (scheme, behind ++ '/' :: ("api/atlas/v2".toList ++ joined segments)) := by
    rw [htext, hinterface, List.append_assoc]
    exact splitScheme_cleaned_append base (by simp) hsome hsegments hlast
  cases hbase : splitScheme (kept base) with
  | none =>
      refine ⟨[], fun {text segments url} htext hsome hsegments hlast hparse hscheme => ?_⟩
      obtain ⟨scheme, behind, hbehind, -⟩ := exists_ofWeb?_of_parse? hparse hscheme
      rw [hsplits htext hsome hsegments hlast, hbase] at hbehind
      cases hbehind
  | some split =>
      obtain ⟨scheme, behind⟩ := split
      have hfront : ∀ c ∈ ((behind ++ ['/']).dropWhile isSlash ++ "api/atlas".toList) ++
          "v2".toList, endsPath c = false := by
        have hfixed : ∀ c ∈ "api/atlas".toList ++ "v2".toList, endsPath c = false := by
          simp [endsPath]
        intro c hc
        rw [List.append_assoc] at hc
        obtain hc | hc := List.mem_append.mp hc
        · obtain hc | hc := List.mem_append.mp ((List.dropWhile_sublist _).subset hc)
          · exact hopen c (kept_subset base (subset_of_splitScheme hbase hc))
          · obtain rfl := List.mem_singleton.mp hc
            decide
        · exact hfixed c hc
      obtain ⟨path, hpath⟩ := exists_path_ofWeb? hfront
      refine ⟨path, fun {text segments url} htext hsome hsegments hlast hparse hscheme => ?_⟩
      obtain ⟨found, rest, hrest, hurl⟩ := exists_ofWeb?_of_parse? hparse hscheme
      rw [hsplits htext hsome hsegments hlast, hbase] at hrest
      cases hrest
      have hletters : behind ++ '/' :: ("api/atlas/v2".toList ++ joined segments) =
          (behind ++ ['/']) ++ 'a' :: ("pi/atlas/v2".toList ++ joined segments) := by
        simp
      -- The slashes that are dropped end before the first letter of the interface.
      rw [hletters, dropWhile_append_cons (by decide)] at hurl
      refine hpath hsome hsegments (Eq.trans (congrArg (ofWeb? _) ?_) hurl)
      simp

/-- Segments without slashes can be told from what they are joined to. -/
theorem joined_injective {first second : List (List Char)}
    (hfirst : ∀ segment ∈ first, '/' ∉ segment) (hsecond : ∀ segment ∈ second, '/' ∉ segment)
    (heq : joined first = joined second) : first = second := by
  have hcut {segments : List (List Char)} (hplain : ∀ segment ∈ segments, '/' ∉ segment) :
      Text.pieces (· = '/') (joined segments) = [] :: segments := by
    refine pieces_append_joined (by decide) (fun segment hsegment c hc => ?_) []
    exact decide_eq_false fun hslash => hplain segment hsegment (hslash ▸ hc)
  have hpieces := hcut hfirst
  rw [heq, hcut hsecond] at hpieces
  exact (List.cons.inj hpieces).2.symm

end CloudSteward.Http.Url
