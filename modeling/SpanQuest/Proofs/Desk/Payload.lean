/-
  What a resolution is told as.

  A resolution becomes an object of texts, of objects of texts, and of one
  integer.  One that a desk has made of a reply is a plain value: the names in
  it differ, since those of its tags were read out of an object and all others
  come from fixed lists, and its integer is short.  So whoever writes it and
  reads it again has the same value, however it was written.

  * `Resolution.Drawn`: the resolution was made of a reply;
  * `Resolution.Drawn.isPlain`: then it is told as a plain value;
  * `step_draws`, `run_draws`: whatever a desk tells was made of a reply.
-/
import SpanQuest.Proofs.Desk.Step
import SpanQuest.Proofs.Storage.Encoding

namespace SpanQuest

open Backend

/-! ## Objects -/

namespace Json

theorem isPlain_object {members : List (String × Json)} (hnames : (Mapping.keys members).Nodup)
    (h : membersPlain members = true) : (object members).isPlain = true := by
  rw [isPlain, h, Bool.and_true]
  exact decide_eq_true hnames

theorem membersPlain_append (xs ys : List (String × Json)) :
    membersPlain (xs ++ ys) = (membersPlain xs && membersPlain ys) := by
  induction xs with
  | nil => simp [membersPlain]
  | cons p xs ih => simp [membersPlain, ih, Bool.and_assoc]

theorem membersPlain_texts (texts : Mapping String) :
    membersPlain (texts.map fun p => (p.1, text p.2)) = true := by
  induction texts with
  | nil => rfl
  | cons p texts ih => simp [membersPlain, isPlain, ih]

theorem keys_texts (texts : Mapping String) :
    Mapping.keys (texts.map fun p => (p.1, text p.2)) = Mapping.keys texts := by
  simp [Mapping.keys]

theorem isPlain_texts {texts : Mapping String} (h : (Mapping.keys texts).Nodup) :
    (object (texts.map fun p => (p.1, text p.2))).isPlain = true := by
  rw [← keys_texts] at h
  exact isPlain_object h (membersPlain_texts texts)

theorem isPlain_text (s : String) : (text s).isPlain = true := rfl

theorem isPlain_ofOption (s : Option String) : (ofOption s).isPlain = true := by
  cases s <;> rfl

end Json

/-! ## Queries -/

theorem Reply.readable_objectOf {reply : String} {v : Json} (h : objectOf reply = .ok v) :
    v.Readable := by
  unfold objectOf at h
  split at h
  · cases h
  split at h
  · cases h
  · cases h
  · next hread =>
    cases h
    exact Json.readable_of_read hread
  · cases h

namespace Query

theorem nodup_tagsOf {v : Json} (hv : v.Readable) {tags : Mapping String}
    (h : tagsOf v = some tags) : (Mapping.keys tags).Nodup := by
  unfold tagsOf at h
  split at h
  · next m ms =>
    cases h
    have hkeys : Mapping.keys ((m :: ms).map fun p => (p.1, tagText p.2)) =
        Mapping.keys (m :: ms) := by simp [Mapping.keys]
    rw [hkeys]
    exact hv.nodup
  · cases h

theorem nodup_tags {reply question : String} {q : Query}
    (h : Reply.queryOf reply question = .ok q) {tags : Mapping String}
    (htags : q.tags = some tags) : (Mapping.keys tags).Nodup := by
  unfold Reply.queryOf at h
  cases hobject : Reply.objectOf reply with
  | error t =>
    rw [hobject] at h
    cases h
  | ok v =>
    rw [hobject] at h
    cases h
    exact nodup_tagsOf ((Reply.readable_objectOf hobject).member "tags") htags

theorem isPlain_toJson {q : Query}
    (h : ∀ tags, q.tags = some tags → (Mapping.keys tags).Nodup) : q.toJson.isPlain = true := by
  unfold toJson
  refine Json.isPlain_object (by simp [Mapping.keys]) ?_
  cases htags : q.tags with
  | none => simp only [Json.membersPlain, Json.isPlain_ofOption, Json.isPlain, Bool.and_true]
  | some tags => simp only [Json.membersPlain, Json.isPlain_ofOption, Json.isPlain_text,
      Json.isPlain_texts (h tags htags), Bool.and_true]

end Query

/-! ## Requests -/

namespace SearchRequest

theorem keys_passedOn (names : List String) (filters : Filters) :
    (Mapping.keys (names.filterMap fun name =>
      (filter? name filters).map fun s => (name, s))).Sublist names := by
  unfold Mapping.keys
  induction names with
  | nil => exact List.Sublist.refl _
  | cons name names ih =>
    cases hname : filter? name filters with
    | none => simpa [hname] using ih.cons name
    | some s => simpa [hname] using ih

/-- What is sure of a request that was made: its end is short, and it passes on
    no filter twice. -/
theorem build_ok {filters : Filters} {now : Moment} {lookback : Lookback} {limit : Json}
    {r : SearchRequest} (h : build filters now lookback limit = .ok r) :
    Short r.stop ∧ (Mapping.keys r.extra).Sublist extraNames := by
  unfold build at h
  split at h
  · cases h
  · cases h
  · cases h
    exact ⟨now.short_searchMicros, keys_passedOn extraNames filters⟩

theorem isPlain_toJson {r : SearchRequest} (hstop : Short r.stop)
    (hextra : (Mapping.keys r.extra).Sublist extraNames) : r.toJson.isPlain = true := by
  have hint : (Json.int r.stop).isPlain = true := by
    rw [Json.isPlain]
    exact decide_eq_true hstop
  unfold toJson
  refine Json.isPlain_object ?_ ?_
  · have hnames : (["service", "operation", "start", "end", "limit", "lookback"] ++
        extraNames).Nodup := by decide
    refine List.Sublist.nodup ?_ hnames
    rw [← Json.keys_texts] at hextra
    simpa [Mapping.keys] using hextra
  · rw [Json.membersPlain_append, Json.membersPlain_texts]
    simp only [Json.membersPlain, Json.isPlain_text, hint, Bool.and_true]

end SearchRequest

/-! ## Resolutions -/

namespace Resolution

/-- **The resolution was made of a reply**: its query was read out of it, its filters
    are those of the query, and its request was made for the filters. -/
structure Drawn (t : Resolution) : Prop where
  query : ∃ reply question, Reply.queryOf reply question = .ok t.query
  filters : t.filters = Filters.ofQuery t.query
  request : ∃ now lookback limit, SearchRequest.build t.filters now lookback limit = .ok t.request

/-- **Such a resolution is told as a plain value.** -/
theorem Drawn.isPlain {t : Resolution} (h : t.Drawn) : t.toJson.isPlain = true := by
  obtain ⟨⟨reply, question, hquery⟩, hfilters, ⟨now, lookback, limit, hrequest⟩⟩ := h
  obtain ⟨hstop, hextra⟩ := SearchRequest.build_ok hrequest
  have hnames : (Mapping.keys t.filters).Nodup := by
    rw [hfilters]
    exact (Filters.keys_ofQuery_sublist t.query).nodup (by decide)
  unfold toJson
  refine Json.isPlain_object (by simp [Mapping.keys]) ?_
  simp only [Json.membersPlain, Json.isPlain_text,
    Query.isPlain_toJson fun _ => Query.nodup_tags hquery, Json.isPlain_texts hnames,
    SearchRequest.isPlain_toJson hstop hextra, Bool.and_true]

end Resolution

/-! ## Desks -/

namespace Desk

variable {d : Desk} {call : Nat} {question : String}

/-- Every resolution in sight was made of a reply: one that a call waits with, and
    those that calls have ended with. -/
structure Draws (r : Desk × List DeskEffect) : Prop where
  waits : ∀ call question t, r.1.pending = some (call, .search question t) → t.Drawn
  tells : ∀ call t, (call, .ok t) ∈ endings r.2 → t.Drawn

theorem draws_of_idle {effects : List DeskEffect} (hidle : d.pending = none)
    (h : ∀ call t, (call, .ok t) ∉ endings effects) : Draws (d, effects) :=
  ⟨by simp [hidle], fun call t ht => absurd ht (h call t)⟩

theorem refuse_draws (d : Desk) (call : Nat) (t : Trouble) : Draws (d.refuse call t) := by
  unfold refuse
  split <;> exact draws_of_idle rfl (by simp)

theorem conclude_draws {t : Resolution} (ht : t.Drawn) (d : Desk) (call : Nat) (question : String)
    (now : Moment) : Draws (d.conclude call question t now) := by
  unfold conclude
  split
  · exact refuse_draws _ call _
  · refine ⟨by simp, fun c u hu => ?_⟩
    rw [endings_finish, List.mem_singleton] at hu
    cases hu
    exact ht

theorem resolve_draws (d : Desk) (call : Nat) (question : String) (completion : Completion)
    (now : Moment) : Draws (d.resolve call question completion now) := by
  unfold resolve
  dsimp only
  split
  · exact refuse_draws _ call _
  next query hquery =>
  split
  · exact refuse_draws _ call _
  next request hrequest =>
  have hdrawn : (⟨query, Filters.ofQuery query, completion, request⟩ : Resolution).Drawn :=
    ⟨⟨_, _, hquery⟩, rfl, ⟨_, _, _, hrequest⟩⟩
  split
  · refine ⟨fun c q t ht => ?_, by simp [endings]⟩
    cases ht
    exact hdrawn
  · exact conclude_draws hdrawn _ call question now

theorem resume_draws (d : Desk) (call : Nat) (question : String) (m : ModelIdentity)
    (adapter : Adapter) (answer : Answer) (now : Moment) :
    Draws (d.resume call question m adapter answer now) := by
  unfold resume
  split
  · exact refuse_draws d call _
  · exact resolve_draws d call question _ now

/-- **One event**: whatever it lets the desk tell was made of a reply. -/
theorem step_draws (hd : d.Sound) (h : Draws (d, [])) (e : DeskEvent) : Draws (d.step e) := by
  by_cases hw : d.Awaits e
  · cases hw with
    | answer call question m adapter answer now hp =>
      rw [step_answer hp]
      exact resume_draws d call question m adapter answer now
    | expire call question m adapter seconds hp hs =>
      rw [step_expire hp hs]
      exact refuse_draws _ call _
    | withdraw call p hp =>
      rw [step_withdraw hp]
      exact draws_of_idle rfl (by simp)
    | searched call question t said now hp =>
      rw [step_searched hp]
      cases said with
      | error trouble => exact refuse_draws d call _
      | ok => exact conclude_draws (h.waits call question t hp) d call question now
  · have hchange := step_change hd e
    generalize d.step e = r at hchange
    cases hchange with
    | turnedAway | rejected => exact ⟨h.waits, by simp⟩
    | passes => exact h
    | goesOn _ _ _ _ _ _ _ haw => exact absurd haw hw
    | late call answer now left effects hn hl hdiscards =>
      exact ⟨h.waits, by simp [hdiscards.endings]⟩
    | begins call v config question r hb ht =>
      cases ht with
      | resolved t now prompts shelf requests ht => exact ht.elim
      | withdrawn p reason prompts requests hw => exact hw.elim
      | failed f query prompts shelf requests hf hq hs hr =>
        exact draws_of_idle rfl (by simp [endings_requests_finish hr])
      | waits p prompts requests hp hr =>
        obtain ⟨-, m, adapter, post, rfl, -, -⟩ := hp
        exact ⟨by simp, by simp [endings_of_requests hr]⟩

/-- **Whatever a desk tells in a run was made of a reply.** -/
theorem run_draws (hidle : d.busy = false) (es : List DeskEvent) : Draws (d.run es) := by
  have hstart : Draws (d, []) := draws_of_idle (by simpa [busy] using hidle) (by simp [endings])
  refine run_induction (P := fun _ effects d' => Draws (d', effects)) (sound_of_idle hidle) hstart
    (fun es effects d' e hd' h => ?_) es
  have hstep := step_draws hd' ⟨h.waits, by simp [endings]⟩ e
  refine ⟨hstep.waits, fun call t ht => ?_⟩
  rw [endings_append, List.mem_append] at ht
  rcases ht with ht | ht
  · exact h.tells call t ht
  · exact hstep.tells call t ht

end Desk

end SpanQuest
