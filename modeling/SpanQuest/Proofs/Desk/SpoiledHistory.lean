/-
  What a stored history does to the calls after it.

  A history whose text is not spoiled takes every question: the question comes
  first, and the entries that were well formed follow it.  A history whose text
  is spoiled takes none, and stays as it is; so at a desk with such a history no
  call ever ends well, although the model has answered it.

  * `append_of_not_spoiled`, `blocked_of_spoiled`: what an append comes to;
  * `run_blocked`: no call ends well at a desk whose history takes no question;
  * `stored_text_dichotomy`: both, for every text that a store in memory has.
-/
import SpanQuest.Proofs.Desk.Step
import SpanQuest.Proofs.Storage.HistoryText

namespace SpanQuest

/-! ## Appending -/

/-- A question is within the limit. -/
def HistoryLimit.HasRoom : HistoryLimit → Prop
  | unlimited => True
  | newest n => 1 ≤ n
  | unusable => False

/-- With room for one, the first stays, and the oldest of the others go. -/
theorem HistoryLimit.cut_cons {limit : HistoryLimit} (h : limit.HasRoom) {α : Type} (x : α)
    (xs : List α) : ∃ older, limit.cut (x :: xs) = .ok (x :: older) ∧ older <+: xs := by
  cases limit with
  | unlimited => exact ⟨xs, rfl, List.prefix_rfl⟩
  | newest n =>
    obtain ⟨k, rfl⟩ : ∃ k : Nat, n = k + 1 := ⟨(n - 1).toNat, by simp only [HasRoom] at h; omega⟩
    refine ⟨xs.take k, ?_, List.take_prefix k xs⟩
    rw [cut, front_of_nonneg (by omega)]
    rfl
  | unusable => exact h.elim

namespace History

variable {h : History} {s : Shelf} {data : Mapping Json} {text : String}

/-- The history takes no question, and an append leaves the shelf as it is. -/
def Blocked (h : History) (s : Shelf) : Prop :=
  ∀ question timestamp now, ∃ t, h.append question timestamp now s = (.error t, s)

theorem push_of_not_spoiled (hs : s.store = .memory data)
    (htext : Mapping.get? h.key data = some (.text text)) (hroom : h.limit.HasRoom)
    (hspoiled : ¬ Spoiled text) (entry : HistoryEntry) (hentry : Short entry.timestamp) :
    ∃ older after, older <+: wellFormed text ∧ h.push entry s = (.ok (), after) ∧
      (h.entries after).1 = .ok (entry :: older) := by
  obtain ⟨older, hcut, holder⟩ := HistoryLimit.cut_cons hroom entry (wellFormed text)
  have hextend : h.extend entry (wellFormed text) = .ok (entry :: older) := hcut
  have hshort : AllShort (entry :: older) := by
    refine List.forall_mem_cons.2 ⟨hentry, fun e he => ?_⟩
    exact allShort_wellFormed text e (holder.subset he)
  refine ⟨older,
    { s with store := .memory (Mapping.put h.key (.text (encode (entry :: older))) data) },
    holder, ?_, ?_⟩
  · simp only [push, entries_memory hs, htext, decode_of_not_spoiled hspoiled, hextend,
      Shelf.set_memory hs]
  · rw [entries_memory rfl, Mapping.get?_put_self, decode_encode hshort]

/-- **A history that is not spoiled takes every question**, in front of the entries
    that are well formed. -/
theorem append_of_not_spoiled (hs : s.store = .memory data)
    (htext : Mapping.get? h.key data = some (.text text)) (hroom : h.limit.HasRoom)
    (hspoiled : ¬ Spoiled text) (question : String) (now : Moment) :
    ∃ older after, older <+: wellFormed text ∧
      h.append (.text question) .null now s = (.ok ⟨question, now.historyMillis⟩, after) ∧
      (h.entries after).1 = .ok (⟨question, now.historyMillis⟩ :: older) := by
  have hcheck : HistoryEntry.check (.text question) (.int now.historyMillis) =
      .ok ⟨question, now.historyMillis⟩ := rfl
  obtain ⟨older, after, holder, hpush, hentries⟩ :=
    push_of_not_spoiled hs htext hroom hspoiled ⟨question, now.historyMillis⟩
      (now.short_historyMillis)
  refine ⟨older, after, holder, ?_, hentries⟩
  simp only [append, Json.isNull, if_true, hcheck, hpush]

/-- **A history that is spoiled takes no question.** -/
theorem blocked_of_spoiled (hs : s.store = .memory data)
    (htext : Mapping.get? h.key data = some (.text text)) (hspoiled : Spoiled text) :
    Blocked h s := by
  obtain ⟨f, hf⟩ := decode_of_spoiled hspoiled
  intro question timestamp now
  unfold append
  dsimp only
  split
  · exact ⟨_, rfl⟩
  · simp only [push, entries_memory hs, htext, hf]
    exact ⟨_, rfl⟩

end History

namespace Desk

open History

variable {d : Desk} {h : History} {call : Nat} {question : String}

/-! ## Calls -/

/-- The effects end no call well. -/
def NoneEndsWell (effects : List DeskEffect) : Prop :=
  ∀ call t, (call, Except.ok t) ∉ endings effects

theorem Turn.blocked {terms : Terms} {r : Desk × List DeskEffect} {data : Mapping Json}
    (ht : Turn d call question terms r) (hh : d.rules.history = some h)
    (hs : d.shelf.store = .memory data) (hblocked : Blocked h d.shelf) :
    r.1.shelf = d.shelf ∧ NoneEndsWell r.2 := by
  cases ht with
  | waits p prompts requests hp hr => 
    refine ⟨rfl, ?_⟩
    simp [NoneEndsWell, endings_of_requests hr]
  | resolved t now prompts shelf requests ht hk hr =>
    -- a call that ends well has put its question into the history
    unfold Kept at hk
    rw [hh] at hk
    obtain ⟨entry, hentry⟩ := hk
    obtain ⟨t, ht⟩ := hblocked (.text question) .null now
    cases hentry.symm.trans ht
  | failed f query prompts shelf requests hf hq hm hr =>
    refine ⟨hm data hs, ?_⟩
    simp [NoneEndsWell, endings_requests_finish hr]
  | withdrawn p reason prompts requests hw hr =>
    refine ⟨rfl, ?_⟩
    simp [NoneEndsWell, endings_requests_finish hr]

theorem step_blocked {data : Mapping Json} (hd : d.Sound) (hh : d.rules.history = some h)
    (hs : d.shelf.store = .memory data) (hblocked : Blocked h d.shelf) (e : DeskEvent) :
    (d.step e).1.shelf = d.shelf ∧ NoneEndsWell (d.step e).2 := by
  have hchange := step_change hd e
  generalize d.step e = r at hchange
  cases hchange with
  | turnedAway | rejected => exact ⟨rfl, by simp [NoneEndsWell]⟩
  | begins _ _ _ _ _ _ ht => exact ht.blocked hh hs hblocked
  | goesOn _ _ _ _ _ _ _ _ _ _ _ ht => exact ht.blocked hh hs hblocked
  | late _ _ _ _ _ _ _ hdiscards =>
    refine ⟨rfl, ?_⟩
    simp [NoneEndsWell, hdiscards.endings]
  | passes => exact ⟨rfl, by simp [NoneEndsWell, endings]⟩

/-- **At a desk whose history takes no question no call ends well**, and the shelf
    stays as it is. -/
theorem run_blocked {data : Mapping Json} (hd : d.Sound) (hh : d.rules.history = some h)
    (hs : d.shelf.store = .memory data) (hblocked : Blocked h d.shelf) (es : List DeskEvent) :
    (d.run es).1.shelf = d.shelf ∧ NoneEndsWell (d.run es).2 := by
  refine (run_induction (P := fun _ effects d' => d'.rules = d.rules ∧ d'.shelf = d.shelf ∧
    NoneEndsWell effects) hd ⟨rfl, rfl, by simp [NoneEndsWell, endings]⟩ ?_ es).2
  -- the shelf stays, and with it what keeps the history from taking a question
  rintro es effects d' e hd' ⟨hrules, hshelf, hnone⟩
  rw [← hrules] at hh
  rw [← hshelf] at hs hblocked
  obtain ⟨hnext, hstep⟩ := step_blocked hd' hh hs hblocked e
  refine ⟨(step_rules hd' e).trans hrules, hnext.trans hshelf, fun call t hmem => ?_⟩
  rw [endings_append, List.mem_append] at hmem
  exact hmem.elim (hnone call t) (hstep call t)

theorem conclude_of_append {shelf : Shelf} {entry : HistoryEntry} {now : Moment}
    (hh : d.rules.history = some h)
    (happend : h.append (.text question) .null now d.shelf = (.ok entry, shelf)) (call : Nat)
    (t : Resolution) :
    ∃ d', d.conclude call question t now = (d', [.finish call (.ok t)]) ∧ d'.shelf = shelf := by
  have hremember : d.remember question now = (.ok (), { d with shelf := shelf }) := by
    simp only [remember, hh, happend, Except.map]
  unfold conclude
  rw [hremember]
  exact ⟨_, rfl, rfl⟩

/-- **What a stored text does to the history and to the calls at its desk.**  If it is
    not spoiled, its well-formed items are the entries; and in memory every append
    succeeds and puts its question first, and a call that comes to its end ends
    well.  If it is spoiled, the entries cannot be read; and in memory nothing can be
    appended, and at a desk with this history no call ever ends well. -/
theorem stored_text_dichotomy {h : History} {s : Shelf} {data : Mapping Json} {text : String}
    (hdata : s.data = .ok data) (htext : Mapping.get? h.key data = some (.text text)) :
    (¬ Spoiled text →
      (h.entries s).1 = .ok (wellFormed text) ∧
      (s.store = .memory data → h.limit.HasRoom →
        ∀ question now, ∃ older after, older <+: wellFormed text ∧
          h.append (.text question) .null now s = (.ok ⟨question, now.historyMillis⟩, after) ∧
          (h.entries after).1 = .ok (⟨question, now.historyMillis⟩ :: older) ∧
          ∀ (d : Desk) call t, d.rules.history = some h → d.shelf = s →
            ∃ d', d.conclude call question t now = (d', [.finish call (.ok t)]) ∧
              d'.shelf = after)) ∧
    (Spoiled text →
      (∃ f, (h.entries s).1 = .error f) ∧
      (s.store = .memory data →
        Blocked h s ∧
        ∀ rules prompts events, rules.history = some h →
          ((fresh rules prompts s).run events).1.shelf = s ∧
            NoneEndsWell ((fresh rules prompts s).run events).2)) := by
  refine ⟨fun hspoiled => ⟨entries_of_not_spoiled hdata htext hspoiled, ?_⟩,
    fun hspoiled => ⟨entries_of_spoiled hdata htext hspoiled, ?_⟩⟩
  · intro hs hroom question now
    obtain ⟨older, after, holder, happend, hentries⟩ :=
      append_of_not_spoiled hs htext hroom hspoiled question now
    refine ⟨older, after, holder, happend, hentries, ?_⟩
    rintro d call t hh rfl
    exact conclude_of_append hh happend call t
  · intro hs
    have hblocked := blocked_of_spoiled hs htext hspoiled
    refine ⟨hblocked, fun rules prompts events hh => ?_⟩
    exact run_blocked (sound_of_idle rfl) hh hs hblocked events

/-- A store in memory with the text of a value for the usual history. -/
def holding (v : Json) : Shelf :=
  ⟨.memory [(defaultKey, .text v.render)], .empty⟩

theorem get?_holding (v : Json) :
    Mapping.get? usual.key [(defaultKey, Json.text v.render)] = some (.text v.render) := by
  simp [usual, Mapping.get?]

/-- A number is passed over, and a question without a timestamp is kept. -/
def lenientItems : Json :=
  .array [.int 7, .object [("question", .text "old"), ("timestamp", .null)]]

theorem stored_text_dichotomy_lenient :
    (usual.entries (holding lenientItems)).1 = .ok [⟨"old", 0⟩] ∧
      ∀ now, ∃ older after, older <+: [⟨"old", 0⟩] ∧
        usual.append (.text "new") .null now (holding lenientItems) =
          (.ok ⟨"new", now.historyMillis⟩, after) ∧
        (usual.entries after).1 = .ok (⟨"new", now.historyMillis⟩ :: older) := by
  have hread : Json.read lenientItems.render = .ok lenientItems := Json.read_render (by decide)
  have hspoiled : ¬ Spoiled lenientItems.render := by
    rintro (⟨count, hlong⟩ | ⟨items, harray, item, hitem, question, hquestion, hunusable⟩)
    · cases hread.symm.trans hlong
    · cases hread.symm.trans harray
      simp only [List.mem_cons, List.not_mem_nil, or_false] at hitem
      rcases hitem with rfl | rfl
      · cases hquestion
      · cases hunusable
  have hroom : usual.limit.HasRoom := by
    show (1 : Int) ≤ 10
    decide
  have hwellFormed : wellFormed lenientItems.render = [⟨"old", 0⟩] := by
    unfold wellFormed itemsOf
    rw [hread]
    rfl
  obtain ⟨hentries, happends⟩ :=
    (stored_text_dichotomy (s := holding lenientItems) rfl (get?_holding _)).1 hspoiled
  rw [hwellFormed] at hentries happends
  refine ⟨hentries, fun now => ?_⟩
  obtain ⟨older, after, holder, happend, hfirst, -⟩ := happends rfl hroom "new" now
  exact ⟨older, after, holder, happend, hfirst⟩

/-- A question whose timestamp is a word. -/
def wordyItems : Json :=
  .array [.object [("question", .text "old"), ("timestamp", .text "soon")]]

/-- **A timestamp that is a word cannot be read**, and nothing can be appended to
    it. -/
theorem entries_wordyItems :
    (usual.entries (holding wordyItems)).1 = .error (.notAnInteger "soon") ∧
      Blocked usual (holding wordyItems) := by
  have hread : Json.read wordyItems.render = .ok wordyItems := Json.read_render (by decide)
  have hspoiled : Spoiled wordyItems.render := by
    refine Or.inr ⟨_, hread, _, List.mem_cons_self .., "old", rfl, ?_⟩
    exact .text (by decide) (by decide)
  refine ⟨?_, blocked_of_spoiled rfl (get?_holding _) hspoiled⟩
  rw [entries_of_data rfl, get?_holding, decode_text, hread]
  rfl

end Desk

end SpanQuest
