/-
  Appending to a history that is kept in memory.

  An append reads the entries, puts one in front and cuts them to the limit.
  In memory nothing is lost on the way: `append_memory` says that either the
  key has the new text, and nothing else has changed, or the shelf is as it was.
-/
import SpanQuest.Proofs.Trouble
import SpanQuest.Storage.History

namespace SpanQuest

namespace Shelf

variable {s : Shelf} {data : Mapping Json}

theorem data_memory (hs : s.store = .memory data) : s.data = .ok data := by
  unfold Shelf.data; rw [hs]

theorem used_memory (hs : s.store = .memory data) : s.used = s := by
  unfold used; rw [hs]

theorem set_memory (hs : s.store = .memory data) (key : String) (value : Json) :
    s.set key value = (.ok (), { s with store := .memory (Mapping.put key value data) }) := by
  simp only [set, data_memory hs, replace, hs]

end Shelf

namespace History

variable {h : History} {s : Shelf} {data : Mapping Json}

/-- What a history in memory holds once an entry was put in front of the others:
    `kept` are those within the limit. -/
structure Pushed (h : History) (entry : HistoryEntry) (data : Mapping Json)
    (old kept : List HistoryEntry) : Prop where
  read : decode (Mapping.get? h.key data) = .ok old
  cut : h.limit.cut (entry :: old) = .ok kept

theorem entries_memory (hs : s.store = .memory data) :
    h.entries s = (decode (Mapping.get? h.key data), s) := by
  simp only [entries, Shelf.get, Shelf.data_memory hs, Shelf.used_memory hs, Except.map]

/-- A push in memory sets the key of the history, or it fails and nothing changes. -/
theorem push_memory (hs : s.store = .memory data) (entry : HistoryEntry) :
    (∃ old kept, Pushed h entry data old kept ∧ h.push entry s =
      (.ok (), { s with store := .memory (Mapping.put h.key (.text (encode kept)) data) })) ∨
    ∃ f, h.push entry s = (.error f, s) := by
  unfold push
  rw [entries_memory hs]
  rcases hold : decode (Mapping.get? h.key data) with f | old
  · exact Or.inr ⟨f, rfl⟩
  · rcases hkept : h.extend entry old with f | kept
    · exact Or.inr ⟨f, by simp only [hkept]⟩
    · refine Or.inl ⟨old, kept, ⟨hold, hkept⟩, ?_⟩
      simp only [hkept]
      exact Shelf.set_memory hs _ _

/-- **An append in memory** puts the question in front, as of now, or it fails
    and nothing changes. -/
theorem append_memory (hs : s.store = .memory data) (question : String) (now : Moment) :
    (∃ old kept, Pushed h ⟨question, now.historyMillis⟩ data old kept ∧
      h.append (.text question) .null now s = (.ok ⟨question, now.historyMillis⟩,
        { s with store := .memory (Mapping.put h.key (.text (encode kept)) data) })) ∨
    ∃ f, h.append (.text question) .null now s = (.error (.fault f), s) := by
  have hcheck : HistoryEntry.check (.text question) (.int now.historyMillis) =
      .ok ⟨question, now.historyMillis⟩ := rfl
  rcases push_memory (h := h) hs ⟨question, now.historyMillis⟩ with ⟨old, kept, hp, he⟩ | ⟨f, he⟩
  · refine Or.inl ⟨old, kept, hp, ?_⟩
    simp only [append, Json.isNull, if_true, hcheck, he]
  · refine Or.inr ⟨f, ?_⟩
    simp only [append, Json.isNull, if_true, hcheck, he]

theorem append_not_withdrawn {question timestamp : Json} {now : Moment} {t : Trouble}
    (ht : (h.append question timestamp now s).1 = .error t) : t.isWithdrawal = false := by
  unfold append at ht
  dsimp only at ht
  split at ht
  · cases ht; rfl
  · split at ht <;> cases ht
    rfl

end History

end SpanQuest
