/-
  A history and settings on one store.

  A store of either kind holds a history and the settings side by side.  What
  they show is a ledger: the entries, the credential and the address.  Each use
  does to the ledger what it says (`Ledger.after`): an append puts an entry in
  front and drops what is beyond the limit, a clear drops all entries, and a
  save changes the settings only.  It does not matter when the store is opened
  anew.

  * `use_stands`: what one use comes to, as the ledger tells;
  * `entries_after_run`: what a history shows after any uses.
-/
import Mathlib.Data.List.Induction
import SpanQuest.Proofs.Storage.HistoryText
import SpanQuest.Proofs.Storage.Standing
import SpanQuest.Storage.Settings

namespace SpanQuest

/-! ## Uses -/

/-- A use of a history or of the settings on the store that they share, or that
    the store is opened anew.  An append without a timestamp is as of now. -/
inductive HistoryUse where
  | append (question : String) (timestamp : Option Int) (now : Moment)
  | clear
  | entries
  | save (key address : Option String)
  | reopen

/-- What a use answers if it succeeds. -/
inductive HistoryAnswer where
  | nothing
  | appended (entry : HistoryEntry)
  | listed (entries : List HistoryEntry)

/-- A given timestamp is not too long. -/
def HistoryUse.Short : HistoryUse → Prop
  | append _ (some t) _ => SpanQuest.Short t
  | _ => True

/-- The entry of a question with a timestamp, or as of now. -/
def HistoryEntry.stamped (question : String) (timestamp : Option Int) (now : Moment) :
    HistoryEntry :=
  ⟨question, timestamp.getD now.historyMillis⟩

namespace History

variable {h : History} {s : Shelf} {data : Mapping Json} {n : Nat}

/-- Uses a history or the settings: the answer, and the shelf after it. -/
def use (h : History) (s : Shelf) : HistoryUse → Except Trouble HistoryAnswer × Shelf
  | .append question timestamp now =>
    let (appended, after) := h.append (.text question) (timestamp.elim .null .int) now s
    (appended.map .appended, after)
  | .clear =>
    let (cleared, after) := h.clear s
    ((cleared.mapError Trouble.fault).map fun _ => .nothing, after)
  | .entries =>
    let (found, after) := h.entries s
    ((found.mapError Trouble.fault).map .listed, after)
  | .save key address =>
    let (saved, after) := Settings.save (key.map .text) (address.map .text) s
    ((saved.mapError Trouble.fault).map fun _ => .nothing, after)
  | .reopen => (.ok .nothing, s.reopen)

/-- The answers to some uses, one after another, and the shelf after them. -/
def run (h : History) (s : Shelf) : List HistoryUse → List (Except Trouble HistoryAnswer) × Shelf
  | [] => ([], s)
  | u :: uses =>
    let (answer, next) := h.use s u
    let (answers, last) := h.run next uses
    (answer :: answers, last)

end History

/-! ## Ledgers -/

/-- **What a history and the settings show.** -/
structure Ledger where
  entries : List HistoryEntry
  apiKey : Option Json
  url : Json

namespace Ledger

/-- The credential that a saved text is. -/
def apiKeyOf (key : String) : Option Json :=
  Settings.present (some (.text key))

/-- The address that a saved text is. -/
def urlOf (address : String) : Json :=
  (Settings.present (some (.text address))).getD (.text ClientConfig.localUrl)

/-- What a use does to a ledger, where `n` entries are within the limit. -/
def after (n : Nat) (l : Ledger) : HistoryUse → Ledger
  | .append question timestamp now =>
    { l with entries := (.stamped question timestamp now :: l.entries).take n }
  | .clear => { l with entries := [] }
  | .save key address =>
    { l with apiKey := key.elim l.apiKey apiKeyOf, url := address.elim l.url urlOf }
  | .entries | .reopen => l

/-- What a use answers. -/
def answer (l : Ledger) : HistoryUse → HistoryAnswer
  | .append question timestamp now => .appended (.stamped question timestamp now)
  | .entries => .listed l.entries
  | .clear | .save .. | .reopen => .nothing

/-- What some uses do to a ledger, one after another. -/
def afterAll (n : Nat) (l : Ledger) (uses : List HistoryUse) : Ledger :=
  uses.foldl (after n) l

/-- What some uses answer, one after another. -/
def answers (n : Nat) (l : Ledger) : List HistoryUse → List HistoryAnswer
  | [] => []
  | u :: uses => l.answer u :: (l.after n u).answers n uses

/-- The shelf shows what the ledger says. -/
structure Shown (l : Ledger) (h : History) (s : Shelf) : Prop where
  entries : (h.entries s).1 = .ok l.entries
  apiKey : (Settings.apiKey s).1 = .ok l.apiKey
  url : (Settings.url s).1 = .ok l.url

/-- The mapping holds what the ledger says. -/
structure Held (l : Ledger) (h : History) (data : Mapping Json) : Prop where
  entries : History.decode (Mapping.get? h.key data) = .ok l.entries
  apiKey : Settings.present (Mapping.get? Settings.apiKeyKey data) = l.apiKey
  url : (Settings.present (Mapping.get? Settings.urlKey data)).getD (.text ClientConfig.localUrl) =
    l.url

end Ledger

/-! ## Uses of a store that can be read -/

open SpanQuest.Shelf

namespace History

variable {h : History} {s : Shelf} {data : Mapping Json} {old kept : List HistoryEntry}
  {entry : HistoryEntry}

theorem entries_stands (hs : Stands data s) : Stands data (h.entries s).2 := by
  have hnext := (hs.get h.key).2
  unfold entries
  rcases hlook : s.get h.key with ⟨f | found, after⟩ <;> rw [hlook] at hnext <;> exact hnext

theorem push_stands (hs : Stands data s) (hold : decode (Mapping.get? h.key data) = .ok old)
    (hkept : h.limit.cut (entry :: old) = .ok kept) (hok : Unhindered (h.push entry s).1) :
    (h.push entry s).1 = .ok () ∧
      Stands (Mapping.put h.key (.text (encode kept)) data) (h.push entry s).2 := by
  have hnext := entries_stands (h := h) hs
  have hentries := (entries_of_data (h := h) hs.data_eq).trans hold
  unfold push at hok ⊢
  rcases hlook : h.entries s with ⟨f | found, after⟩
  · rw [hlook] at hentries
    cases hentries
  · rw [hlook] at hentries hnext
    cases hentries
    have hextend : h.extend entry old = .ok kept := hkept
    simp only [hlook, hextend] at hok ⊢
    exact hnext.set hok

theorem use_append (h : History) (s : Shelf) (question : String) (timestamp : Option Int)
    (now : Moment) :
    h.use s (.append question timestamp now) =
      ((((h.push (.stamped question timestamp now) s).1.map fun _ =>
          HistoryAnswer.appended (.stamped question timestamp now)).mapError Trouble.fault),
        (h.push (.stamped question timestamp now) s).2) := by
  have hstamp : (if (timestamp.elim Json.null .int).isNull then Json.int now.historyMillis
      else timestamp.elim Json.null .int) = .int (timestamp.getD now.historyMillis) := by
    cases timestamp <;> rfl
  have hcheck : HistoryEntry.check (.text question) (.int (timestamp.getD now.historyMillis)) =
      .ok (.stamped question timestamp now) := rfl
  simp only [use, append, hstamp, hcheck]
  rcases h.push (.stamped question timestamp now) s with ⟨f | done, after⟩ <;> rfl

end History

namespace Settings

variable {s : Shelf} {data : Mapping Json}

/-- What a mapping becomes where one setting is saved, if it is given. -/
def putOne (key : String) (value : Option String) (data : Mapping Json) : Mapping Json :=
  value.elim data fun v => Mapping.put key (.text v) data

theorem get?_putOne (key other : String) (value : Option String) (data : Mapping Json) :
    Mapping.get? other (putOne key value data) =
      if other = key then value.elim (Mapping.get? other data) (some ∘ .text)
      else Mapping.get? other data := by
  cases value with
  | none => simp [putOne]
  | some v =>
    by_cases hother : other = key
    · simp [putOne, hother]
    · simp [putOne, hother, Mapping.get?_put_of_ne hother]

theorem saveOne_stands {key : String} {value : Option String} (hs : Stands data s)
    (hok : Unhindered (saveOne key (value.map .text) s).1) :
    (saveOne key (value.map .text) s).1 = .ok () ∧
      Stands (putOne key value data) (saveOne key (value.map .text) s).2 := by
  cases value with
  | none => exact ⟨rfl, hs⟩
  | some v => exact hs.set hok

theorem save_stands {key address : Option String} (hs : Stands data s)
    (hok : Unhindered (save (key.map .text) (address.map .text) s).1) :
    (save (key.map .text) (address.map .text) s).1 = .ok () ∧
      Stands (putOne urlKey address (putOne apiKeyKey key data))
        (save (key.map .text) (address.map .text) s).2 := by
  have hfirst (hok : Unhindered (saveOne apiKeyKey (key.map .text) s).1) := saveOne_stands hs hok
  unfold save at hok ⊢
  rcases hsaved : saveOne apiKeyKey (key.map .text) s with ⟨f | done, after⟩
  · rw [hsaved] at hok hfirst
    cases (hfirst hok).1
  · rw [hsaved] at hok hfirst
    exact saveOne_stands (hfirst nofun).2 hok

end Settings

namespace Ledger

variable {l : Ledger} {h : History} {s : Shelf} {data : Mapping Json} {n : Nat}

/-! ## What a mapping holds -/

theorem Held.shown (hl : l.Held h data) (hs : Stands data s) : l.Shown h s where
  entries := (History.entries_of_data hs.data_eq).trans hl.entries
  apiKey := by simp only [Settings.apiKey, Shelf.get, hs.data_eq, Except.map, hl.apiKey]
  url := by simp only [Settings.url, Shelf.get, hs.data_eq, Except.map, hl.url]

theorem apiKeyKey_ne : Settings.apiKeyKey ≠ History.defaultKey := by decide

theorem urlKey_ne : Settings.urlKey ≠ History.defaultKey := by decide

/-- **The text of entries that can be written** takes the place of the others, and
    the settings stay. -/
theorem Held.put_entries (hl : l.Held h data) (hkey : h.key = History.defaultKey)
    {kept : List HistoryEntry} (hkept : History.AllShort kept) :
    { l with entries := kept }.Held h
      (Mapping.put h.key (.text (History.encode kept)) data) where
  entries := by rw [Mapping.get?_put_self, History.decode_encode hkept]
  apiKey := by rw [hkey, Mapping.get?_put_of_ne apiKeyKey_ne, hl.apiKey]
  url := by rw [hkey, Mapping.get?_put_of_ne urlKey_ne, hl.url]

/-- **Without the text of a history** there are no entries, and the settings stay. -/
theorem Held.erase_entries (hl : l.Held h data) (hkey : h.key = History.defaultKey)
    (hkeys : (Mapping.keys data).Nodup) :
    { l with entries := [] }.Held h (Mapping.erase h.key data) where
  entries := by rw [Mapping.get?_erase_self _ hkeys]; rfl
  apiKey := by rw [hkey, Mapping.get?_erase_of_ne apiKeyKey_ne, hl.apiKey]
  url := by rw [hkey, Mapping.get?_erase_of_ne urlKey_ne, hl.url]

/-- **Settings that are saved** take the place of the others, and the entries stay. -/
theorem Held.put_settings (hl : l.Held h data) (hkey : h.key = History.defaultKey)
    (key address : Option String) :
    { l with apiKey := key.elim l.apiKey apiKeyOf, url := address.elim l.url urlOf }.Held h
      (Settings.putOne Settings.urlKey address (Settings.putOne Settings.apiKeyKey key data)) where
  entries := by
    have hapi : h.key ≠ Settings.apiKeyKey := hkey ▸ apiKeyKey_ne.symm
    have hurl : h.key ≠ Settings.urlKey := hkey ▸ urlKey_ne.symm
    rw [Settings.get?_putOne, if_neg hurl, Settings.get?_putOne, if_neg hapi, hl.entries]
  apiKey := by
    rw [Settings.get?_putOne, if_neg (by decide), Settings.get?_putOne, if_pos rfl]
    cases key with
    | none => exact hl.apiKey
    | some k => rfl
  url := by
    rw [Settings.get?_putOne, if_pos rfl]
    cases address with
    | none =>
      rw [Option.elim_none, Settings.get?_putOne, if_neg (by decide)]
      exact hl.url
    | some u => rfl

theorem Held.allShort (hl : l.Held h data) : History.AllShort l.entries :=
  History.short_of_decode hl.entries

theorem Held.allShort_take (hl : l.Held h data) {entry : HistoryEntry}
    (hentry : Short entry.timestamp) : History.AllShort ((entry :: l.entries).take n) := by
  intro e he
  rcases List.mem_cons.1 (List.mem_of_mem_take he) with rfl | he
  · exact hentry
  · exact hl.allShort e he

end Ledger

/-! ## Uses -/

theorem HistoryUse.short_stamp {question : String} {timestamp : Option Int} {now : Moment}
    (hu : (HistoryUse.append question timestamp now).Short) :
    SpanQuest.Short (HistoryEntry.stamped question timestamp now).timestamp := by
  cases timestamp with
  | none => exact now.short_historyMillis
  | some t => exact hu

/-- The outcome of a use tells of nothing in the way of a path. -/
def Unhampered {α : Type} (r : Except Trouble α) : Prop :=
  ∀ f, r = .error (.fault f) → f.isOfDisk = false

theorem Unhampered.unhindered {α β : Type} {r : Except Fault α} {g : α → β}
    (h : Unhampered ((r.mapError Trouble.fault).map g)) : Unhindered r := by
  rintro f rfl
  exact h f rfl

namespace History

variable {h : History} {s : Shelf} {data : Mapping Json} {l : Ledger} {n : Nat}

/-- **A use with nothing in the way answers as the ledger tells**, and the store
    holds what the use makes of the ledger. -/
theorem use_stands (hkey : h.key = defaultKey) (hlimit : h.limit = .newest n)
    (hs : Stands data s) (hl : l.Held h data) {u : HistoryUse} (hu : u.Short)
    (hok : Unhampered (h.use s u).1) :
    (h.use s u).1 = .ok (l.answer u) ∧
      ∃ next, Stands next (h.use s u).2 ∧ (l.after n u).Held h next := by
  cases u with
  | append question timestamp now =>
    rw [use_append] at hok ⊢
    have hcut : h.limit.cut (.stamped question timestamp now :: l.entries) =
        .ok ((.stamped question timestamp now :: l.entries).take n) := by
      rw [hlimit]
      exact congrArg Except.ok (front_of_nonneg (Int.natCast_nonneg n) _)
    have hunhindered : Unhindered (h.push (.stamped question timestamp now) s).1 :=
      fun f hf => hok f (by rw [hf]; rfl)
    obtain ⟨hpushed, hnext⟩ := push_stands hs hl.entries hcut hunhindered
    -- what was read is short, and so are the entries that are written again
    refine ⟨?_, _, hnext, hl.put_entries hkey (hl.allShort_take (HistoryUse.short_stamp hu))⟩
    rw [hpushed]
    rfl
  | clear =>
    obtain ⟨hcleared, hnext⟩ := hs.delete h.key hok.unhindered
    refine ⟨?_, _, hnext, hl.erase_entries hkey hs.nodup⟩
    simp only [use, clear, hcleared]
    rfl
  | entries =>
    have hentries := (entries_of_data (h := h) hs.data_eq).trans hl.entries
    refine ⟨?_, data, entries_stands hs, hl⟩
    simp only [use, hentries]
    rfl
  | save key address =>
    obtain ⟨hsaved, hnext⟩ := Settings.save_stands hs hok.unhindered
    refine ⟨?_, _, hnext, hl.put_settings hkey key address⟩
    simp only [use, hsaved]
    rfl
  | reopen => exact ⟨rfl, data, hs.reopen, hl⟩

theorem run_stands (hkey : h.key = defaultKey) (hlimit : h.limit = .newest n)
    (hs : Stands data s) (hl : l.Held h data) {uses : List HistoryUse}
    (huses : ∀ u ∈ uses, u.Short) (hok : ∀ r ∈ (h.run s uses).1, Unhampered r) :
    (h.run s uses).1 = (l.answers n uses).map .ok ∧
      ∃ last, Stands last (h.run s uses).2 ∧ (l.afterAll n uses).Held h last := by
  induction uses generalizing s data l with
  | nil => exact ⟨rfl, data, hs, hl⟩
  | cons u uses ih =>
    obtain ⟨hu, huses⟩ := List.forall_mem_cons.1 huses
    obtain ⟨hfirst, hrest⟩ := List.forall_mem_cons.1 hok
    obtain ⟨hanswer, next, hnext, hheld⟩ := use_stands hkey hlimit hs hl hu hfirst
    obtain ⟨hanswers, last, hlast⟩ := ih hnext hheld huses hrest
    refine ⟨?_, last, hlast⟩
    simp only [run, hanswer, hanswers, Ledger.answers, List.map_cons]

end History

/-! ## What is remembered -/

namespace HistoryUse

/-- What a history without a limit would hold after some uses. -/
def remembered (old : List HistoryEntry) (uses : List HistoryUse) : List HistoryEntry :=
  uses.foldl (fun entries u => match u with
    | append question timestamp now => .stamped question timestamp now :: entries
    | clear => []
    | _ => entries) old

/-- The use saves settings. -/
def isSave : HistoryUse → Bool
  | save .. => true
  | _ => false

/-- The use appends a question. -/
def isAppend : HistoryUse → Bool
  | append .. => true
  | _ => false

end HistoryUse

namespace Ledger

theorem take_cons_congr {n : Nat} {xs ys : List HistoryEntry} (h : xs.take n = ys.take n)
    (e : HistoryEntry) : (e :: xs).take n = (e :: ys).take n := by
  rcases n with _ | n
  · rfl
  · have hfewer : xs.take n = ys.take n := by
      simpa [List.take_take] using congrArg (List.take n) h
    rw [List.take_succ_cons, List.take_succ_cons, hfewer]

/-- Within the limit a ledger agrees with a history without a limit. -/
theorem take_entries_afterAll (n : Nat) (l : Ledger) (uses : List HistoryUse) :
    (l.afterAll n uses).entries.take n = (HistoryUse.remembered l.entries uses).take n := by
  induction uses using List.reverseRecOn with
  | nil => rfl
  | append_singleton uses u ih =>
    simp only [afterAll, HistoryUse.remembered, List.foldl_append, List.foldl_cons,
      List.foldl_nil] at ih ⊢
    cases u with
    | append question timestamp now =>
      simp only [after, List.take_take, Nat.min_self]
      exact take_cons_congr ih _
    | clear => rfl
    | entries | save | reopen => exact ih

/-- **A limit loses nothing but what is beyond it**: once anything was appended, the
    entries are the newest of those that a history without a limit would hold. -/
theorem entries_afterAll (n : Nat) (l : Ledger) {uses : List HistoryUse}
    (huses : ∃ u ∈ uses, u.isAppend = true) :
    (l.afterAll n uses).entries = (HistoryUse.remembered l.entries uses).take n := by
  rw [← take_entries_afterAll, eq_comm, List.take_eq_self_iff]
  induction uses using List.reverseRecOn with
  | nil => simp at huses
  | append_singleton uses u ih =>
    simp only [afterAll, List.foldl_append, List.foldl_cons, List.foldl_nil] at ih ⊢
    cases u with
    | append question timestamp now => exact List.length_take_le _ _
    | clear => exact Nat.zero_le _
    | entries | save | reopen => exact ih (by simpa [HistoryUse.isAppend] using huses)

/-- **The entries do not depend on what is saved**, and the settings depend on
    nothing else. -/
theorem afterAll_filter (n : Nat) (l : Ledger) (uses : List HistoryUse) :
    (l.afterAll n uses).entries = (l.afterAll n (uses.filter fun u => !u.isSave)).entries ∧
      (l.afterAll n uses).apiKey = (l.afterAll n (uses.filter (·.isSave))).apiKey ∧
      (l.afterAll n uses).url = (l.afterAll n (uses.filter (·.isSave))).url := by
  induction uses using List.reverseRecOn with
  | nil => exact ⟨rfl, rfl, rfl⟩
  | append_singleton uses u ih =>
    obtain ⟨hentries, hkey, hurl⟩ := ih
    simp only [afterAll] at hentries hkey hurl
    cases u <;> simp [afterAll, after, HistoryUse.isSave, List.filter_append, hentries, hkey, hurl]

end Ledger

namespace History

variable {h : History} {s : Shelf} {n : Nat}

theorem data_of_entries {old : List HistoryEntry} (hold : (h.entries s).1 = .ok old) :
    ∃ data, s.data = .ok data ∧ decode (Mapping.get? h.key data) = .ok old := by
  rcases hdata : s.data with f | data
  · simp only [entries, Shelf.get, hdata, Except.map] at hold
    cases hold
  · exact ⟨data, rfl, (entries_of_data hdata).symm.trans hold⟩

/-- **A history under the usual key keeps its ledger**, in a store of either kind
    whose entries can be read as it is opened, and where nothing is in the way of
    any use.  From then on every use succeeds and answers as the ledger tells, and
    after all of them the store shows it: the entries are those that were read, with
    each question that was appended in front, cut to the limit, until they are
    cleared.  Neither does a save change the entries, nor anything else the
    settings. -/
theorem run_shows_ledger (hkey : h.key = defaultKey) (hlimit : h.limit = .newest n)
    (hs : Opened s) {old : List HistoryEntry} (hold : (h.entries s).1 = .ok old)
    {uses : List HistoryUse} (huses : ∀ u ∈ uses, u.Short)
    (hok : ∀ r ∈ (h.run s uses).1, Unhampered r) :
    ∃ start : Ledger, start.entries = old ∧ start.Shown h s ∧
      (h.run s uses).1 = (start.answers n uses).map .ok ∧
      (start.afterAll n uses).Shown h (h.run s uses).2 ∧
      ((∃ u ∈ uses, u.isAppend = true) →
        (start.afterAll n uses).entries = (HistoryUse.remembered old uses).take n) ∧
      (start.afterAll n uses).entries =
        (start.afterAll n (uses.filter fun u => !u.isSave)).entries ∧
      (start.afterAll n uses).apiKey = (start.afterAll n (uses.filter (·.isSave))).apiKey ∧
      (start.afterAll n uses).url = (start.afterAll n (uses.filter (·.isSave))).url := by
  obtain ⟨data, hdata, hread⟩ := data_of_entries hold
  have hstands := hs.stands hdata
  -- the settings of the first ledger are whatever the store shows
  have hheld : Ledger.Held ⟨old, _, _⟩ h data := ⟨hread, rfl, rfl⟩
  obtain ⟨hanswers, last, hlast, hlastHeld⟩ := run_stands hkey hlimit hstands hheld huses hok
  exact ⟨_, rfl, hheld.shown hstands, hanswers, hlastHeld.shown hlast,
    fun hany => Ledger.entries_afterAll n _ hany, Ledger.afterAll_filter n _ uses⟩

/-- A question is appended and forgotten, another is asked before the epoch, a
    credential is saved, and the file is opened anew. -/
def mixedUses : List HistoryUse :=
  [.append "old" (some 5) default, .clear, .append "new\n" (some (-7)) default,
    .save (some "key") none, .reopen]

/-- A store whose file is not there yet. -/
def newFile : Shelf :=
  ofFile ⟨false, ["store.json"]⟩ Disk.empty

theorem run_shows_ledger_mixed :
    (usual.run newFile mixedUses).1 =
      [.ok (.appended ⟨"old", 5⟩), .ok .nothing, .ok (.appended ⟨"new\n", -7⟩), .ok .nothing,
        .ok .nothing] ∧
    (usual.entries (usual.run newFile mixedUses).2).1 = .ok [⟨"new\n", -7⟩] ∧
    (Settings.apiKey (usual.run newFile mixedUses).2).1 = .ok (some (.text "key")) := by
  have hold : (usual.entries newFile).1 = .ok [] := rfl
  have huses : ∀ u ∈ mixedUses, u.Short := by
    have hfive : Short 5 := by decide
    have hseven : Short (-7) := by decide
    simp [mixedUses, HistoryUse.Short, hfive, hseven]
  have hok : ∀ r ∈ (usual.run newFile mixedUses).1, Unhampered r := by
    have hrun : (usual.run newFile mixedUses).1 =
        [.ok (.appended ⟨"old", 5⟩), .ok .nothing, .ok (.appended ⟨"new\n", -7⟩), .ok .nothing,
          .ok .nothing] := rfl
    rw [hrun]
    simp [Unhampered]
  obtain ⟨start, hstart, -, hanswers, hshown, -⟩ :=
    run_shows_ledger (n := 10) rfl rfl (.file _ _) hold huses hok
  refine ⟨hanswers, hshown.entries, hshown.apiKey⟩

end History

end SpanQuest
