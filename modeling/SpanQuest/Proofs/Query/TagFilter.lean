/-
  The filter for tags and status.

  Tags are written as `key="value"` one blank apart, and the status is written
  as one more tag after them.  Nothing is escaped, so other tags may be written
  alike.  Where no tag seems to begin or to end inside another one and no tag
  stands for the status, the filter tells the tags and the status.

  * `written_injective`: genuine tags are told by their text;
  * `tagsFilter_injective`: tags and status are told by the filter;
  * `renderTags_alike`: which other tags are written alike.
-/
import SpanQuest.Proofs.Query.Locate
import SpanQuest.Query.Filters

namespace SpanQuest.Filters

/-! ## The text of the tags -/

/-- A part of the filter with a blank before it. -/
def lead (s : String) : List Char :=
  ' ' :: s.toList

/-- The tags one after another, a blank before each. -/
def written (tags : Mapping String) : List Char :=
  tags.flatMap fun p => lead (renderTag p.1 p.2)

theorem written_cons (p : String × String) (tags : Mapping String) :
    written (p :: tags) =
      ' ' :: p.1.toList ++ '=' :: '"' :: (p.2.toList ++ '"' :: written tags) := by
  have hopen : "=\"".toList = ['=', '"'] := by decide
  have hclose : "\"".toList = ['"'] := by decide
  simp [written, lead, renderTag, hopen, hclose]

theorem written_append (tags more : Mapping String) :
    written (tags ++ more) = written tags ++ written more :=
  List.flatMap_append

theorem lead_intercalate {parts : List String} (h : parts ≠ []) :
    lead (" ".intercalate parts) = parts.flatMap lead := by
  have hblank : " ".toList = [' '] := by decide
  induction parts with
  | nil => exact absurd rfl h
  | cons part rest ih =>
    rcases rest with _ | ⟨next, rest⟩
    · simp [lead]
    · have hrest := ih (List.cons_ne_nil next rest)
      rw [String.intercalate_cons_of_ne_nil (List.cons_ne_nil next rest), List.flatMap_cons, ← hrest]
      simp [lead, hblank]

theorem lead_renderTags {tags : Mapping String} (h : tags ≠ []) :
    lead (renderTags tags) = written tags := by
  have hparts : tags.map (fun p => renderTag p.1 p.2) ≠ [] := by
    rw [ne_eq, List.map_eq_nil_iff]
    exact h
  rw [renderTags, lead_intercalate hparts, List.flatMap_map]
  rfl

/-- The tag for the status. -/
def statusTag? : TraceStatus → Option (String × String)
  | .error => some ("otel.status_code", "ERROR")
  | .success => some ("otel.status_code", "OK")
  | .all => none

theorem marker?_eq (status : TraceStatus) :
    status.marker? = (statusTag? status).map fun p => renderTag p.1 p.2 := by
  cases status <;> decide

/-- The tags of a query, and the tag for its status. -/
def allTags (q : Query) : Mapping String :=
  q.tags.getD [] ++ (statusTag? q.status).toList

theorem flatMap_tagParts (q : Query) : (tagParts q).flatMap lead = written (allTags q) := by
  have hstatus : q.status.marker?.toList.flatMap lead = written (statusTag? q.status).toList := by
    rw [marker?_eq]
    cases statusTag? q.status <;> simp [written]
  rw [tagParts, allTags, List.flatMap_append, written_append, hstatus]
  congr 1
  rcases q.tags with _ | tags
  · rfl
  · rcases tags with _ | ⟨p, tags⟩
    · rfl
    · simp [← lead_renderTags]

theorem get?_field {name key : String} (h : name ≠ key) (v : Option String) (rest : Filters) :
    Mapping.get? key (field name v ++ rest) = Mapping.get? key rest := by
  rcases v with _ | s
  · rfl
  · by_cases hs : s.isEmpty <;> simp [field, hs, Mapping.get?, h]

/-- **The filter for tags and status** is the text of all tags, and there is none
    if there are none. -/
theorem tagsFilter_eq (q : Query) :
    ((Mapping.get? "tags" (ofQuery q)).map lead).getD [] = written (allTags q) := by
  rw [← flatMap_tagParts, ofQuery]
  simp only [List.append_assoc]
  rw [get?_field (by decide), get?_field (by decide), get?_field (by decide),
    get?_field (by decide)]
  rcases hparts : tagParts q with _ | ⟨part, parts⟩
  · rfl
  · exact lead_intercalate (List.cons_ne_nil part parts)

theorem lead_injective : Function.Injective lead := by
  intro s t h
  exact String.toList_inj.1 (List.cons.inj h).2

theorem tagsFilter_eq_iff {q r : Query} :
    Mapping.get? "tags" (ofQuery q) = Mapping.get? "tags" (ofQuery r) ↔
      written (allTags q) = written (allTags r) := by
  rw [← tagsFilter_eq, ← tagsFilter_eq]
  constructor
  · intro h
    rw [h]
  · intro h
    rcases hq : Mapping.get? "tags" (ofQuery q) with _ | s <;>
      rcases hr : Mapping.get? "tags" (ofQuery r) with _ | t <;> rw [hq, hr] at h
    · cases h
    · cases h
    · exact congrArg some (lead_injective h)

/-! ## Tags that can be told apart -/

/-- The end of a tag, with the blank before the next one. -/
def tagEnd : List Char := ['"', ' ']

/-- What stands between the key and the value of a tag. -/
def valueStart : List Char := ['=', '"']

/-- Keys with which tags can be told apart: no value begins in such a key, and no
    tag ends in it.  The key of the status is one of them. -/
structure PlainKeys (plain : String → Prop) : Prop where
  no_start : ∀ key, plain key → ¬ valueStart <:+: key.toList
  no_end : ∀ key, plain key → ¬ tagEnd <:+: key.toList
  status : plain "otel.status_code"

theorem plainKeys_unquoted : PlainKeys fun key => '"' ∉ key.toList where
  no_start key hkey h := hkey (h.subset (by decide))
  no_end key hkey h := hkey (h.subset (by decide))
  status := by decide

section

variable {plain : String → Prop}

/-- In the value with the quote after it a tag seems to end, and another one with a
    plain key to begin. -/
def Forges (plain : String → Prop) (value : String) : Prop :=
  ∃ front key back, value.toList ++ ['"'] = front ++ tagEnd ++ key.toList ++ valueStart ++ back ∧
    plain key

/-- A tag whose key is plain and whose value forges no tag. -/
def Genuine (plain : String → Prop) (p : String × String) : Prop :=
  plain p.1 ∧ ¬ Forges plain p.2

theorem not_forges {value : String} (h : ¬ tagEnd <:+: value.toList) : ¬ Forges plain value := by
  rintro ⟨front, key, back, heq, -⟩
  -- the last quote is not the one before the blank
  have hsplit : value.toList ++ ['"'] =
      (front ++ tagEnd) ++ (key.toList ++ valueStart ++ back) := by
    rw [heq]
    simp
  have hrest : key.toList ++ valueStart ++ back ≠ [] := by
    simp [valueStart]
  have hvalue := congrArg List.dropLast hsplit
  rw [List.dropLast_concat, List.dropLast_append_of_ne_nil hrest] at hvalue
  exact h ⟨front, _, hvalue.symm⟩

theorem genuine_of_statusTag? (hplain : PlainKeys plain) {status : TraceStatus}
    {p : String × String} (h : statusTag? status = some p) : Genuine plain p := by
  cases status with
  | error =>
    cases h
    exact ⟨hplain.status, not_forges (by decide)⟩
  | success =>
    cases h
    exact ⟨hplain.status, not_forges (by decide)⟩
  | all => cases h

theorem eq_of_valueStart {front front' back back' : List Char}
    (hfront : ¬ valueStart <:+: front) (hfront' : ¬ valueStart <:+: front')
    (h : front ++ '=' :: '"' :: back = front' ++ '=' :: '"' :: back') :
    front = front' ∧ back = back' := by
  -- the shorter one goes on with an equals sign and a quote in the longer one
  have hshorter : ∀ {c rest rest' : List Char}, '=' :: '"' :: rest = c ++ '=' :: '"' :: rest' →
      c = [] ∨ valueStart <:+: c := by
    intro c rest rest' hc
    rcases c with _ | ⟨d, _ | ⟨e, c⟩⟩
    · exact Or.inl rfl
    · injection hc with _ hc
      injection hc with hquote
      exact absurd hquote (by decide)
    · injection hc with hd hc
      injection hc with he
      subst hd he
      exact Or.inr (List.prefix_append valueStart c).isInfix
  rcases List.append_eq_append_iff.1 h with ⟨c, rfl, hrest⟩ | ⟨c, rfl, hrest⟩
  · rcases hshorter hrest with rfl | hstart
    · simpa using hrest
    · exact absurd (hstart.trans (List.suffix_append front c).isInfix) hfront'
  · rcases hshorter hrest with rfl | hstart
    · simpa [eq_comm] using hrest
    · exact absurd (hstart.trans (List.suffix_append front' c).isInfix) hfront

/-- A text with tags after it that is itself the text of tags goes on at least to
    the value of the first of them. -/
theorem valueStart_of_written (hplain : PlainKeys plain) {p : String × String}
    (hkey : plain p.1) {tags tags' : Mapping String} {text : List Char}
    (h : written (p :: tags) = text ++ '"' :: written tags') :
    ∃ more, text ++ ['"'] = ' ' :: (p.1.toList ++ valueStart ++ more) := by
  have hwritten : (' ' :: p.1.toList ++ ['=']) ++ '"' :: (p.2.toList ++ '"' :: written tags) =
      text ++ '"' :: written tags' := by
    rw [← h, written_cons]
    simp
  rcases List.append_eq_append_iff.1 hwritten with ⟨c, rfl, hrest⟩ | ⟨c, hfront, hrest⟩
  · rcases c with _ | ⟨d, c⟩
    · exact ⟨[], by simp [valueStart]⟩
    · obtain ⟨rfl, -⟩ := List.cons.inj hrest
      exact ⟨c ++ ['"'], by simp [valueStart]⟩
  · rcases c with _ | ⟨d, c⟩
    · refine ⟨[], ?_⟩
      rw [List.append_nil] at hfront
      simp [← hfront, valueStart]
    -- else the text ends in the key, and a blank follows, which no plain key has there
    exfalso
    obtain ⟨rfl, hafter⟩ := List.cons.inj hrest
    rcases tags' with _ | ⟨p', tags'⟩
    · exact absurd hafter.symm (List.append_ne_nil_of_right_ne_nil _ (List.cons_ne_nil _ _))
    rw [written_cons] at hafter
    rcases c with _ | ⟨e, c⟩
    · exact absurd (List.cons.inj hafter).1 (by decide)
    obtain ⟨rfl, -⟩ := List.cons.inj hafter
    have hend : tagEnd <:+: ' ' :: (p.1.toList ++ ['=']) :=
      ⟨text, c, by rw [← List.cons_append, hfront]; simp [tagEnd]⟩
    rcases List.infix_cons_iff.1 hend with hfirst | hlater
    · exact absurd (List.cons_prefix_cons.1 hfirst).1 (by decide)
    rcases Reply.infix_append_cons (by decide) hlater with hinkey | hnil
    · exact hplain.no_end _ hkey hinkey
    · exact absurd (List.infix_nil.1 hnil) (by decide)

/-- A value that goes on where another one ends, in the same text, forges a tag. -/
theorem forges_of_longer (hplain : PlainKeys plain) {value longer : String}
    {tags tags' : Mapping String} (hkeys : ∀ p ∈ tags, plain p.1) {c : Char} {cs : List Char}
    (hlonger : longer.toList = value.toList ++ c :: cs)
    (h : '"' :: written tags = c :: cs ++ '"' :: written tags') : Forges plain longer := by
  obtain ⟨rfl, hcs⟩ := List.cons.inj h
  rcases tags with _ | ⟨p, tags⟩
  · exact absurd hcs.symm (List.append_ne_nil_of_right_ne_nil _ (List.cons_ne_nil _ _))
  have hkey : plain p.1 := hkeys p (List.mem_cons_self ..)
  obtain ⟨more, hmore⟩ := valueStart_of_written hplain hkey hcs
  refine ⟨value.toList, p.1, more, ?_, hkey⟩
  rw [hlonger, List.append_assoc, List.cons_append, hmore]
  simp [tagEnd]

/-- **Genuine tags are told by their text.** -/
theorem written_injective (hplain : PlainKeys plain) {tags tags' : Mapping String}
    (hgenuine : ∀ p ∈ tags, Genuine plain p) (hgenuine' : ∀ p ∈ tags', Genuine plain p)
    (h : written tags = written tags') : tags = tags' := by
  induction tags generalizing tags' with
  | nil =>
    rcases tags' with _ | ⟨p', tags'⟩
    · rfl
    · rw [written_cons] at h
      cases h
  | cons p tags ih =>
    rcases tags' with _ | ⟨p', tags'⟩
    · rw [written_cons] at h
      cases h
    obtain ⟨hp, htags⟩ := List.forall_mem_cons.1 hgenuine
    obtain ⟨hp', htags'⟩ := List.forall_mem_cons.1 hgenuine'
    rw [written_cons, written_cons] at h
    obtain ⟨hkey, hvalues⟩ := eq_of_valueStart (hplain.no_start _ hp.1) (hplain.no_start _ hp'.1)
      (List.cons.inj h).2
    -- a value that went on where the other one ends would forge the next tag
    have hvalue : p.2.toList = p'.2.toList := by
      rcases List.append_eq_append_iff.1 hvalues with ⟨c, hlonger, hrest⟩ | ⟨c, hlonger, hrest⟩
      · rcases c with _ | ⟨d, c⟩
        · rw [hlonger, List.append_nil]
        · have hforges := forges_of_longer hplain (fun x hx => (htags x hx).1) hlonger hrest
          exact absurd hforges hp'.2
      · rcases c with _ | ⟨d, c⟩
        · rw [hlonger, List.append_nil]
        · have hforges := forges_of_longer hplain (fun x hx => (htags' x hx).1) hlonger hrest
          exact absurd hforges hp.2
    have hpair : p = p' := Prod.ext (String.toList_inj.1 hkey) (String.toList_inj.1 hvalue)
    rw [hvalue] at hvalues
    have hrest : written tags = written tags' :=
      (List.cons.inj (List.append_cancel_left hvalues)).2
    rw [hpair, ih htags htags' hrest]

/-! ## Tags and status -/

theorem statusTag?_injective : Function.Injective statusTag? := by
  intro status status' h
  cases status <;> cases status' <;> first | rfl | exact absurd h (by decide)

/-- The tags can be told apart: they are genuine, and with no status the last one
    is not the tag for a status. -/
structure Unmistakable (plain : String → Prop) (tags : Mapping String) (status : TraceStatus) :
    Prop where
  genuine : ∀ p ∈ tags, Genuine plain p
  not_status : statusTag? status = none → ∀ other p, statusTag? other = some p →
    tags.getLast? ≠ some p

theorem Unmistakable.allTags (hplain : PlainKeys plain) {q : Query} {tags : Mapping String}
    (h : Unmistakable plain tags q.status) (htags : q.tags = some tags) :
    ∀ p ∈ allTags q, Genuine plain p := by
  intro p hp
  rw [Filters.allTags, htags, Option.getD_some, List.mem_append, Option.mem_toList] at hp
  rcases hp with hp | hp
  · exact h.genuine p hp
  · exact genuine_of_statusTag? hplain hp

theorem Unmistakable.eq_of_append {tags tags' : Mapping String} {status status' : TraceStatus}
    (h : Unmistakable plain tags status) (h' : Unmistakable plain tags' status')
    (heq : tags ++ (statusTag? status).toList = tags' ++ (statusTag? status').toList) :
    tags = tags' ∧ status = status' := by
  rcases hs : statusTag? status with _ | p <;> rcases hs' : statusTag? status' with _ | p' <;>
    rw [hs, hs'] at heq
  · exact ⟨List.append_cancel_right heq, statusTag?_injective (hs.trans hs'.symm)⟩
  · refine absurd ?_ (h.not_status hs status' p' hs')
    rw [Option.toList_none, List.append_nil] at heq
    rw [heq, Option.toList_some, List.getLast?_concat]
  · refine absurd ?_ (h'.not_status hs' status p hs)
    rw [Option.toList_none, List.append_nil] at heq
    rw [← heq, Option.toList_some, List.getLast?_concat]
  · obtain ⟨htags, hlast⟩ := List.append_inj' heq rfl
    obtain rfl := List.singleton_inj.1 hlast
    exact ⟨htags, statusTag?_injective (hs.trans hs'.symm)⟩

/-- **The filter tells the tags and the status**, as long as the tags can be told
    apart. -/
theorem tagsFilter_injective (hplain : PlainKeys plain) {q r : Query}
    {tags tags' : Mapping String} (hq : q.tags = some tags) (hr : r.tags = some tags')
    (htags : Unmistakable plain tags q.status) (htags' : Unmistakable plain tags' r.status)
    (h : Mapping.get? "tags" (ofQuery q) = Mapping.get? "tags" (ofQuery r)) :
    tags = tags' ∧ q.status = r.status := by
  have hall : allTags q = allTags r :=
    written_injective hplain (htags.allTags hplain hq) (htags'.allTags hplain hr)
      (tagsFilter_eq_iff.1 h)
  refine htags.eq_of_append htags' ?_
  rwa [allTags, allTags, hq, hr] at hall

end

/-- A query with these tags and this status. -/
def tagged (tags : Mapping String) (status : TraceStatus) : Query where
  service := none
  operation := none
  minDuration := none
  maxDuration := none
  tags := some tags
  status := status
  question := "q"

theorem allTags_tagged_all (tags : Mapping String) : allTags (tagged tags .all) = tags :=
  List.append_nil tags

/-- A tag with the name of the status, and an object with quotes and marks. -/
def quotedTags : Mapping String :=
  [("otel.status_code", "ERROR"), ("a", "\x7b\"b\": \"c=\\\"d\\\"\"\x7d")]

theorem tagsFilter_injective_quoted :
    Unmistakable (fun key => '"' ∉ key.toList) quotedTags .all ∧
      Mapping.get? "tags" (ofQuery (tagged quotedTags .all)) =
        some "otel.status_code=\"ERROR\" a=\"\x7b\"b\": \"c=\\\"d\\\"\"\x7d\"" ∧
      quotedTags = quotedTags ∧ (tagged quotedTags .all).status = .all := by
  have hunmistakable : Unmistakable (fun key => '"' ∉ key.toList) quotedTags .all := by
    constructor
    · intro p hp
      rcases List.mem_cons.1 hp with rfl | hp
      · exact genuine_of_statusTag? plainKeys_unquoted (show statusTag? .error = some _ from rfl)
      · obtain rfl := List.mem_singleton.1 hp
        exact ⟨by decide, not_forges (by decide +kernel)⟩
    · intro _ other p hother
      cases other <;> cases hother <;> decide
  refine ⟨hunmistakable, by decide +kernel, ?_⟩
  exact tagsFilter_injective plainKeys_unquoted (q := tagged quotedTags .all)
    (r := tagged quotedTags .all) rfl rfl hunmistakable hunmistakable rfl

/-! ## Tags that cannot be told apart -/

theorem renderTags_one (p : String × String) : renderTags [p] = renderTag p.1 p.2 := by
  simp [renderTags]

theorem renderTags_two (p p' : String × String) :
    renderTags [p, p'] = renderTag p.1 p.2 ++ " " ++ renderTag p'.1 p'.2 := by
  simp [renderTags]

/-- **Other tags are written alike**: two tags and one whose value forges a tag, a
    tag with a key in which a value begins, and tags with a key in which a tag
    ends. -/
theorem renderTags_alike (key key' value value' inner : String) :
    renderTags [(key, value ++ "\" " ++ key' ++ "=\"" ++ value')] =
        renderTags [(key, value), (key', value')] ∧
      renderTags [(key ++ "=\"" ++ inner, value)] =
        renderTags [(key, inner ++ "=\"" ++ value)] ∧
      renderTags [(key, value), (inner ++ "\" " ++ key', value')] =
        renderTags [(key, value ++ "\" " ++ inner), (key', value')] := by
  have hend : "\" " = "\"" ++ " " := by decide
  refine ⟨?_, ?_, ?_⟩ <;>
    simp only [renderTags_one, renderTags_two, renderTag, hend, String.append_assoc]

theorem tagsFilter_eq_of_renderTags {tags tags' : Mapping String} (h : tags ≠ [])
    (h' : tags' ≠ []) (heq : renderTags tags = renderTags tags') :
    Mapping.get? "tags" (ofQuery (tagged tags .all)) =
      Mapping.get? "tags" (ofQuery (tagged tags' .all)) := by
  rw [tagsFilter_eq_iff, allTags_tagged_all, allTags_tagged_all, ← lead_renderTags h,
    ← lead_renderTags h', heq]

/-- **Three ways to the same filter**: a value that forges a tag, a key in which a
    value begins, and a tag that is the status. -/
theorem tagsFilter_ambiguous :
    (Mapping.get? "tags" (ofQuery (tagged [("a", "x\" b=\"y")] .all)) =
        Mapping.get? "tags" (ofQuery (tagged [("a", "x"), ("b", "y")] .all)) ∧
      [("a", "x\" b=\"y")] ≠ [("a", "x"), ("b", "y")]) ∧
    (Mapping.get? "tags" (ofQuery (tagged [("a=\"b", "c")] .all)) =
        Mapping.get? "tags" (ofQuery (tagged [("a", "b=\"c")] .all)) ∧
      [("a=\"b", "c")] ≠ [("a", "b=\"c")]) ∧
    Mapping.get? "tags" (ofQuery (tagged [("a", "b"), ("otel.status_code", "ERROR")] .all)) =
        Mapping.get? "tags" (ofQuery (tagged [("a", "b")] .error)) ∧
      TraceStatus.all ≠ .error := by
  have hvalue : renderTags [("a", "x\" b=\"y")] = renderTags [("a", "x"), ("b", "y")] :=
    (renderTags_alike "a" "b" "x" "y" "").1
  have hkey : renderTags [("a=\"b", "c")] = renderTags [("a", "b=\"c")] :=
    (renderTags_alike "a" "" "c" "" "b").2.1
  refine ⟨⟨?_, by decide⟩, ⟨?_, by decide⟩, ?_, by decide⟩
  · exact tagsFilter_eq_of_renderTags (List.cons_ne_nil _ _) (List.cons_ne_nil _ _) hvalue
  · exact tagsFilter_eq_of_renderTags (List.cons_ne_nil _ _) (List.cons_ne_nil _ _) hkey
  · rw [tagsFilter_eq_iff, allTags_tagged_all]
    rfl

end SpanQuest.Filters
