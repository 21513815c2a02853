/-
  The text that a history is kept in.

  A stored text is read in one of two ways.  It is spoiled, and cannot be read
  at all, if an integer in it is too long or if the timestamp of a question in
  it is no integer and not absent either; else its well-formed items are its
  entries, in their order.  What is read is short enough to be written, and
  what was written reads back.

  * `timestampOf_error_iff`: the timestamps that cannot be used;
  * `decode_of_not_spoiled`, `decode_of_spoiled`: how a stored text is read;
  * `short_of_decode`: no timestamp that is read is too long;
  * `decode_encode`: entries with short timestamps read back;
  * `entries_of_not_spoiled`, `entries_of_spoiled`: the entries of a store.
-/
import SpanQuest.Proofs.Json.Extent
import SpanQuest.Storage.History

namespace SpanQuest

namespace HistoryEntry

/-! ## Timestamps -/

/-- **A timestamp that cannot be used**: it counts as present, and no integer can
    be made of it. -/
inductive Unusable : Json → Prop where
  | nan : Unusable (.double .nan)
  | infinite (negative : Bool) : Unusable (.double (.infinite negative))
  | text {s : String} (hs : s ≠ "") (hn : Number.readInteger? s = none) : Unusable (.text s)
  | array (item : Json) (items : List Json) : Unusable (.array (item :: items))
  | object (member : String × Json) (members : List (String × Json)) :
      Unusable (.object (member :: members))

theorem toInteger_text_error_iff {s : String} :
    (∃ f, (Json.text s).toInteger = .error f) ↔ Number.readInteger? s = none := by
  cases h : Number.readInteger s <;> simp [Json.toInteger, Number.readInteger?, h]

/-- **A timestamp fails exactly if it cannot be used.** -/
theorem timestampOf_error_iff {v : Json} : (∃ f, timestampOf v = .error f) ↔ Unusable v := by
  constructor
  · rintro ⟨f, hf⟩
    unfold timestampOf at hf
    split at hf
    · next htruthy =>
      cases v with
      | null => cases htruthy
      | bool | int => cases hf
      | double x =>
        cases x with
        | nan => exact .nan
        | infinite negative => exact .infinite negative
        | finite => cases hf
      | text s =>
        exact .text (by rintro rfl; cases htruthy) (toInteger_text_error_iff.1 ⟨f, hf⟩)
      | array items =>
        cases items with
        | nil => cases htruthy
        | cons item items => exact .array item items
      | object members =>
        cases members with
        | nil => cases htruthy
        | cons member members => exact .object member members
    · cases hf
  · intro h
    cases h with
    | nan | infinite | array | object => exact ⟨_, rfl⟩
    | @text s hs hn =>
      obtain ⟨f, hf⟩ := toInteger_text_error_iff.2 hn
      have htruthy : (Json.text s).isTruthy = true := by simpa [Json.isTruthy] using hs
      exact ⟨f, by rw [timestampOf, if_pos htruthy, hf]⟩

theorem timestampOf_int (n : Int) : timestampOf (.int n) = .ok n := by
  unfold timestampOf
  split
  · rfl
  · next hzero =>
    obtain rfl : n = 0 := by simpa [Json.isTruthy] using hzero
    rfl

theorem short_of_timestampOf {v : Json} (hv : v.Readable) {t : Int} (h : timestampOf v = .ok t) :
    Short t := by
  unfold timestampOf at h
  split at h
  · cases hv with
    | int ht =>
      cases h
      exact ht
    | bool b =>
      cases h
      cases b <;> decide
    | @double x hx =>
      cases x with
      | nan | infinite => cases h
      | finite negative m e =>
        cases h
        exact Double.short_of_truncate hx rfl
    | text s =>
      simp only [Json.toInteger] at h
      split at h
      · next n hn =>
        cases h
        exact short_of_readInteger hn
      · cases h
      · cases h
    | null | array | object => cases h
  · cases h
    decide

/-! ## Items -/

/-- The item has a question, and a timestamp that cannot be used. -/
def Spoils (item : Json) : Prop :=
  ∃ question, item.member "question" = .text question ∧ Unusable (item.member "timestamp")

/-- The entry that an item is, if it is well formed. -/
def ofItem? (item : Json) : Option HistoryEntry :=
  match item.member "question" with
  | .text question => (timestampOf (item.member "timestamp")).toOption.map (⟨question, ·⟩)
  | _ => none

theorem ofItem_of_not_spoils {item : Json} (h : ¬ Spoils item) :
    ofItem item = .ok (ofItem? item) := by
  unfold ofItem ofItem?
  cases hquestion : item.member "question" with
  | text question =>
    dsimp only
    rcases ht : timestampOf (item.member "timestamp") with f | t
    · exact absurd ⟨question, hquestion, timestampOf_error_iff.1 ⟨f, ht⟩⟩ h
    · rfl
  | _ => rfl

theorem ofItem_of_spoils {item : Json} (h : Spoils item) : ∃ f, ofItem item = .error f := by
  obtain ⟨question, hquestion, hunusable⟩ := h
  obtain ⟨f, hf⟩ := timestampOf_error_iff.2 hunusable
  exact ⟨f, by simp only [ofItem, hquestion, hf, Except.map]⟩

theorem ofItems_of_not_spoils {items : List Json} (h : ∀ item ∈ items, ¬ Spoils item) :
    ofItems items = .ok (items.filterMap ofItem?) := by
  induction items with
  | nil => rfl
  | cons item items ih =>
    rw [List.forall_mem_cons] at h
    simp only [ofItems, ofItem_of_not_spoils h.1, ih h.2, Except.map]
    cases hitem : ofItem? item <;> simp [hitem]

theorem ofItems_of_spoils {items : List Json} (h : ∃ item ∈ items, Spoils item) :
    ∃ f, ofItems items = .error f := by
  induction items with
  | nil => simp at h
  | cons item items ih =>
    by_cases hitem : Spoils item
    · obtain ⟨f, hf⟩ := ofItem_of_spoils hitem
      exact ⟨f, by simp only [ofItems, hf]⟩
    · obtain ⟨spoiler, hmem, hspoils⟩ := h
      have hrest : spoiler ∈ items := by
        rcases List.mem_cons.1 hmem with rfl | hrest
        · exact absurd hspoils hitem
        · exact hrest
      obtain ⟨f, hf⟩ := ih ⟨spoiler, hrest, hspoils⟩
      exact ⟨f, by simp only [ofItems, ofItem_of_not_spoils hitem, hf, Except.map]⟩

theorem short_of_ofItem? {item : Json} (hitem : item.Readable) {e : HistoryEntry}
    (h : ofItem? item = some e) : Short e.timestamp := by
  unfold ofItem? at h
  split at h
  · rcases ht : timestampOf (item.member "timestamp") with f | t
    · rw [ht] at h
      cases h
    · rw [ht] at h
      cases h
      exact short_of_timestampOf (hitem.member "timestamp") ht
  · cases h

/-! ## Items of entries -/

theorem isPlain_toJson {e : HistoryEntry} (h : Short e.timestamp) : e.toJson.isPlain = true := by
  have hshort : (Json.int e.timestamp).isPlain = true := by
    rw [Json.isPlain]
    exact decide_eq_true h
  rw [toJson, Json.isPlain, Json.membersPlain, Json.membersPlain, hshort]
  rfl

theorem ofItem_toJson (e : HistoryEntry) : ofItem e.toJson = .ok (some e) := by
  have hquestion : e.toJson.member "question" = .text e.question := rfl
  have htimestamp : e.toJson.member "timestamp" = .int e.timestamp := rfl
  simp only [ofItem, hquestion, htimestamp, timestampOf_int, Except.map]

theorem ofItems_toJson (entries : List HistoryEntry) :
    ofItems (entries.map toJson) = .ok entries := by
  induction entries with
  | nil => rfl
  | cons e entries ih => simp [ofItems, ofItem_toJson, ih, Except.map]

end HistoryEntry

namespace History

open HistoryEntry

/-! ## Texts -/

/-- **The text cannot be read as a history**: an integer in it is too long, or the
    timestamp of a question in it cannot be used. -/
def Spoiled (text : String) : Prop :=
  (∃ count, Json.read text = .error (.tooManyDigits count)) ∨
    ∃ items, Json.read text = .ok (.array items) ∧ ∃ item ∈ items, Spoils item

/-- The items of a text: those of its array, if it is the text of one. -/
def itemsOf (text : String) : List Json :=
  match Json.read text with
  | .ok (.array items) => items
  | _ => []

/-- **The entries that are well formed**, in their order. -/
def wellFormed (text : String) : List HistoryEntry :=
  (itemsOf text).filterMap ofItem?

/-- An empty text is read as any other: it is the text of no value. -/
theorem decode_text (text : String) :
    decode (some (.text text)) =
      match Json.read text with
      | .error (.tooManyDigits count) => .error (.digitLimit count)
      | .error (.malformed ..) => .ok []
      | .ok (.array items) => ofItems items
      | .ok _ => .ok [] := by
  by_cases htext : text = ""
  · subst htext
    rfl
  · have htruthy : (Json.text text).isTruthy = true := by simpa [Json.isTruthy] using htext
    simp only [decode, htruthy]
    rfl

/-- **A text that is not spoiled is read**: its well-formed items are the entries. -/
theorem decode_of_not_spoiled {text : String} (h : ¬ Spoiled text) :
    decode (some (.text text)) = .ok (wellFormed text) := by
  obtain ⟨hshort, hitems⟩ := not_or.1 h
  rw [decode_text]
  unfold wellFormed itemsOf
  rcases hread : Json.read text with (⟨c, p⟩ | count) | v
  · rfl
  · exact absurd ⟨count, hread⟩ hshort
  · cases v with
    | array items =>
      exact ofItems_of_not_spoils fun item hitem hspoils =>
        hitems ⟨items, hread, item, hitem, hspoils⟩
    | _ => rfl

/-- **A text that is spoiled is not read.** -/
theorem decode_of_spoiled {text : String} (h : Spoiled text) :
    ∃ f, decode (some (.text text)) = .error f := by
  rw [decode_text]
  rcases h with ⟨count, hread⟩ | ⟨items, hread, hitems⟩
  · exact ⟨_, by rw [hread]⟩
  · obtain ⟨f, hf⟩ := ofItems_of_spoils hitems
    exact ⟨f, by rw [hread, ← hf]⟩

/-! ## Writing and reading -/

/-- No timestamp of the entries is too long to be written. -/
def AllShort (entries : List HistoryEntry) : Prop :=
  ∀ e ∈ entries, Short e.timestamp

theorem allShort_wellFormed (text : String) : AllShort (wellFormed text) := by
  intro e he
  obtain ⟨item, hitem, hentry⟩ := List.mem_filterMap.1 he
  refine short_of_ofItem? ?_ hentry
  unfold itemsOf at hitem
  split at hitem
  · next items hread =>
    cases Json.readable_of_read hread with
    | array hitems => exact hitems item hitem
  · cases hitem

/-- **No timestamp that is read is too long.** -/
theorem short_of_decode {stored : Option Json} {entries : List HistoryEntry}
    (h : decode stored = .ok entries) : AllShort entries := by
  have hnil : AllShort [] := by simp [AllShort]
  rcases stored with _ | v
  · cases h
    exact hnil
  · cases v with
    | text text =>
      by_cases hspoiled : Spoiled text
      · obtain ⟨f, hf⟩ := decode_of_spoiled hspoiled
        cases h.symm.trans hf
      · cases h.symm.trans (decode_of_not_spoiled hspoiled)
        exact allShort_wellFormed text
    | _ =>
      unfold decode at h
      dsimp only at h
      split at h <;> cases h
      exact hnil

/-- **Entries whose timestamps are short read back.** -/
theorem decode_encode {entries : List HistoryEntry} (h : AllShort entries) :
    decode (some (.text (encode entries))) = .ok entries := by
  have hplain : (Json.array (entries.map toJson)).isPlain = true := by
    rw [Json.isPlain]
    induction entries with
    | nil => rfl
    | cons e entries ih =>
      obtain ⟨he, hentries⟩ := List.forall_mem_cons.1 h
      rw [List.map_cons, Json.allPlain, isPlain_toJson he, ih hentries]
      rfl
  rw [decode_text, encode, Json.read_render hplain]
  exact ofItems_toJson entries

/-! ## Stores -/

variable {h : History} {s : Shelf} {data : Mapping Json} {text : String}

theorem entries_of_data (hdata : s.data = .ok data) :
    (h.entries s).1 = decode (Mapping.get? h.key data) := by
  simp only [entries, Shelf.get, hdata, Except.map]

/-- **The entries of a stored text that is not spoiled** are its well-formed items. -/
theorem entries_of_not_spoiled (hdata : s.data = .ok data)
    (htext : Mapping.get? h.key data = some (.text text)) (hspoiled : ¬ Spoiled text) :
    (h.entries s).1 = .ok (wellFormed text) := by
  rw [entries_of_data hdata, htext, decode_of_not_spoiled hspoiled]

/-- **The entries of a stored text that is spoiled** cannot be read. -/
theorem entries_of_spoiled (hdata : s.data = .ok data)
    (htext : Mapping.get? h.key data = some (.text text)) (hspoiled : Spoiled text) :
    ∃ f, (h.entries s).1 = .error f := by
  rw [entries_of_data hdata, htext]
  exact decode_of_spoiled hspoiled

end History

end SpanQuest
