/-
  What a registry of prompts holds.

  A registry is read from its file when it is used.  If that fails, the next use
  tries again with the file as it then is, and the prompts before the one that
  failed stay.  So a registry that was read holds what the file described, with
  what was registered later in its place, and besides what is left from tries that
  failed, where neither has a prompt of that name.

  * `load_of_unread`: what one try does;
  * `perform_of_loaded`, `perform_of_read`, `perform_of_read_error`: what one use does;
  * `entries_of_run`, `left_of_run`: what the registry holds after uses and changes of
    the file, if it was read and if not;
  * `run_succeeded`: nothing else is held exactly if no name is left over;
  * `run_uses`: while the file stays as it is, none is;
  * `run_leftover`: a name that is left over.
-/
import Mathlib.Data.List.Induction
import SpanQuest.Prompt.Registry

namespace SpanQuest

/-! ## Mappings -/

namespace Mapping

variable {α : Type}

/-- The mapping with pairs set, one after another. -/
def putAll (m : Mapping α) (pairs : List (String × α)) : Mapping α :=
  pairs.foldl (fun m p => put p.1 p.2 m) m

theorem putAll_append (m : Mapping α) (first second : List (String × α)) :
    putAll m (first ++ second) = putAll (putAll m first) second :=
  List.foldl_append

theorem get?_putAll (key : String) (m : Mapping α) (pairs : List (String × α)) :
    get? key (putAll m pairs) = (get? key pairs.reverse).or (get? key m) := by
  induction pairs generalizing m with
  | nil => rfl
  | cons p pairs ih =>
    have hlast : get? key (put p.1 p.2 m) = (get? key [p]).or (get? key m) := by
      by_cases hp : p.1 = key
      · subst hp
        simp [get?]
      · rw [get?_put_of_ne (Ne.symm hp)]
        simp [get?, hp]
    rw [List.reverse_cons, get?_append, Option.or_assoc, ← hlast]
    exact ih _

/-- What was there makes no difference exactly if it is set anew. -/
theorem get?_reverse_or_eq_iff {key : String} {m : Mapping α} {pairs : List (String × α)} :
    (get? key pairs.reverse).or (get? key m) = get? key pairs.reverse ↔
      (has key m = true → key ∈ keys pairs) := by
  have hkeys : key ∈ keys pairs ↔ get? key pairs.reverse ≠ none := by
    rw [Ne, get?_eq_none_iff, not_not]
    simp [keys]
  rw [hkeys, has]
  rcases get? key pairs.reverse with _ | v
  · rcases get? key m with _ | v <;> simp
  · simp

end Mapping

namespace Prompt

/-! ## Files -/

/-- The prompts that members describe, up to one that fails. -/
def described : List (String × Json) → Option Fault × List (String × Entry)
  | [] => (none, [])
  | (name, v) :: rest =>
    match Registry.entryOf v with
    | .error f => (some f, [])
    | .ok none => described rest
    | .ok (some e) => ((described rest).1, (name, e) :: (described rest).2)

/-- The prompts that a file describes, up to what fails. -/
def Source.read : Source → Option Fault × List (String × Entry)
  | .missing => (none, [])
  | .flawed f => (some f, [])
  | .content v =>
    match Registry.promptsOf v with
    | .error f => (some f, [])
    | .ok members => described members

/-! ## Uses -/

/-- A use of a registry. -/
inductive Use where
  | names
  | entry (name : String)
  | render (name : String) (values : Mapping String)
  | validate
  | register (name : String) (e : Entry)

/-- The use is one for which the registry is read: a value is given for no reserved
    name. -/
def Use.reads : Use → Bool
  | .render _ values => !Registry.reserved.any fun n => Mapping.has n values
  | _ => true

/-- The prompt that a use registers. -/
def Use.puts : Use → List (String × Entry)
  | .register name e => [(name, e)]
  | _ => []

/-- What may happen to a registry: its file is changed, or it is used. -/
inductive RegistryEvent where
  | edit (source : Source)
  | use (u : Use)

/-- The prompts that events register. -/
def putsOf (es : List RegistryEvent) : List (String × Entry) :=
  es.flatMap fun
    | .edit _ => []
    | .use u => u.puts

namespace Registry

/-- A registry that was not used. -/
def ofSource (source : Source) : Registry :=
  { source := source }

/-- What becomes of a use, whatever it answers. -/
def perform (r : Registry) : Use → Except Trouble Unit × Registry
  | .names => r.names.map (·.map fun _ => ()) id
  | .entry name => (r.entry name).map (·.map fun _ => ()) id
  | .render name values => (r.render name values).map (·.map fun _ => ()) id
  | .validate => r.validate.map (·.map fun _ => ()) id
  | .register name e => r.register name e

/-- The registry after an event. -/
def step (r : Registry) : RegistryEvent → Registry
  | .edit source => { r with source := source }
  | .use u => (r.perform u).2

/-- The registry after events. -/
def run (r : Registry) (es : List RegistryEvent) : Registry :=
  es.foldl step r

variable {r : Registry} {u : Use}

/-! ## One try -/

theorem takeIn_eq (entries : Mapping Entry) (members : List (String × Json)) :
    takeIn entries members = ((described members).1, Mapping.putAll entries (described members).2) := by
  induction members generalizing entries with
  | nil => rfl
  | cons m rest ih =>
    obtain ⟨name, v⟩ := m
    unfold takeIn described
    rcases entryOf v with f | _ | e
    · rfl
    · exact ih entries
    · exact ih (Mapping.put name e entries)

theorem load_of_loaded (h : r.loaded = true) : r.load = (none, r) :=
  if_pos h

/-- **One try** puts in what the file describes, up to what fails, and the registry was
    read if nothing does. -/
theorem load_of_unread (h : r.loaded = false) :
    r.load = (r.source.read.1,
      { r with
        entries := Mapping.putAll r.entries r.source.read.2
        loaded := r.source.read.1.isNone }) := by
  obtain ⟨source, entries, loaded⟩ := r
  obtain rfl : loaded = false := h
  unfold load Source.read
  dsimp only
  cases source with
  | missing => rfl
  | flawed f => rfl
  | content v =>
    rcases hprompts : promptsOf v with f | members
    · simp [hprompts]
      rfl
    · simp only [hprompts, takeIn_eq]
      rcases (described members).1 with _ | f <;> rfl

/-! ## One use -/

/-- A use with a value for a reserved name does nothing. -/
theorem perform_of_reserved (h : u.reads = false) :
    r.perform u = (.error (.fault .badArguments), r) ∧ u.puts = [] := by
  cases u with
  | render name values =>
    have hreserved : (reserved.any fun n => Mapping.has n values) = true := by
      simpa [Use.reads] using h
    have hrender : r.render name values = (.error (.fault .badArguments), r) := if_pos hreserved
    exact ⟨by rw [perform, hrender]; rfl, rfl⟩
  | names | entry | validate | register => cases h

theorem render_of_reads {name : String} {values : Mapping String}
    (h : (Use.render name values).reads = true) :
    r.render name values = match r.entry name with
      | (.error t, r) => (.error t, r)
      | (.ok e, r) => (fillIn e.template values, r) := by
  have hplain : ¬ (reserved.any fun n => Mapping.has n values) = true := by
    simpa [Use.reads] using h
  exact if_neg hplain

theorem perform_of_load_error {f : Fault} {r' : Registry} (hreads : u.reads = true)
    (hload : r.load = (some f, r')) : r.perform u = (.error (.fault f), r') := by
  cases u with
  | names => simp [perform, names, afterLoad, hload, Except.map]
  | entry name => simp [perform, entry, afterLoad, hload, Except.map]
  | render name values =>
    rw [perform, render_of_reads hreads]
    simp [entry, afterLoad, hload, Except.map]
  | validate => simp [perform, validate, afterLoad, hload, Except.map]
  | register name e => simp [perform, register, afterLoad, hload]

/-- Any other use takes in what is registered, once the registry was read. -/
theorem perform_of_load {r' : Registry} (hreads : u.reads = true) (hload : r.load = (none, r')) :
    (r.perform u).2 = { r' with entries := Mapping.putAll r'.entries u.puts } := by
  cases u with
  | names => simp [perform, names, afterLoad, hload, Use.puts, Mapping.putAll]
  | entry name =>
    simp only [perform, entry, afterLoad, hload]
    rcases Mapping.get? name r'.entries with _ | e <;> rfl
  | render name values =>
    rw [perform, render_of_reads hreads]
    simp only [entry, afterLoad, hload]
    rcases Mapping.get? name r'.entries with _ | e <;> rfl
  | validate => simp [perform, validate, afterLoad, hload, Use.puts, Mapping.putAll]
  | register name e => simp [perform, register, afterLoad, hload, Use.puts, Mapping.putAll]

theorem perform_of_loaded (h : r.loaded = true) (u : Use) :
    (r.perform u).2 = { r with entries := Mapping.putAll r.entries u.puts } := by
  cases hreads : u.reads with
  | true => exact perform_of_load hreads (load_of_loaded h)
  | false =>
    obtain ⟨hperform, hputs⟩ := perform_of_reserved (r := r) hreads
    rw [hperform, hputs]
    rfl

/-- **A use that reads the registry** takes in what the file describes, and then what is
    registered. -/
theorem perform_of_read {own : List (String × Entry)} (h : r.loaded = false)
    (hreads : u.reads = true) (hread : r.source.read = (none, own)) :
    (r.perform u).2 =
      { r with entries := Mapping.putAll r.entries (own ++ u.puts), loaded := true } := by
  have hload := load_of_unread h
  rw [hread] at hload
  rw [perform_of_load hreads hload, Mapping.putAll_append]
  rfl

/-- **A use that cannot read it** fails, and takes in what the file describes up to what
    failed. -/
theorem perform_of_read_error {f : Fault} {left : List (String × Entry)} (h : r.loaded = false)
    (hreads : u.reads = true) (hread : r.source.read = (some f, left)) :
    r.perform u = (.error (.fault f), { r with entries := Mapping.putAll r.entries left }) := by
  have hload := load_of_unread h
  rw [hread] at hload
  rw [perform_of_load_error hreads hload, h]
  rfl

/-! ## Many events -/

theorem loaded_of_succeeds (h : (r.perform u).1 = .ok ()) : (r.perform u).2.loaded = true := by
  cases hreads : u.reads with
  | false =>
    rw [(perform_of_reserved hreads).1] at h
    cases h
  | true =>
    cases hloaded : r.loaded with
    | true => rw [perform_of_loaded hloaded]; exact hloaded
    | false =>
      rcases hread : r.source.read with ⟨_ | f, own⟩
      · rw [perform_of_read hloaded hreads hread]
      · rw [perform_of_read_error hloaded hreads hread] at h
        cases h

theorem run_of_loaded (h : r.loaded = true) (es : List RegistryEvent) :
    (r.run es).loaded = true ∧ (r.run es).entries = Mapping.putAll r.entries (putsOf es) := by
  induction es generalizing r with
  | nil => exact ⟨h, rfl⟩
  | cons e es ih =>
    cases e with
    | edit source => exact ih (r := { r with source := source }) h
    | use u =>
      have hstep : r.step (.use u) = { r with entries := Mapping.putAll r.entries u.puts } :=
        perform_of_loaded h u
      obtain ⟨hloaded, hentries⟩ := ih (r := r.step (.use u)) (by rw [hstep]; exact h)
      refine ⟨hloaded, hentries.trans ?_⟩
      rw [hstep, ← Mapping.putAll_append]
      rfl

/-- **What a registry holds** that was read: what it held before the use that read it,
    then what the file described at that use, and then what was registered. -/
theorem entries_of_run {es : List RegistryEvent} (hunread : r.loaded = false)
    (h : (r.run es).loaded = true) :
    ∃ before u after own, es = before ++ .use u :: after ∧ (r.run before).loaded = false ∧
      (r.run before).source.read = (none, own) ∧
      (r.run es).entries = Mapping.putAll (r.run before).entries (own ++ (u.puts ++ putsOf after)) := by
  induction es generalizing r with
  | nil => exact absurd (hunread.symm.trans h) (by decide)
  | cons e es ih =>
    cases hstep : (r.step e).loaded with
    | false =>
      obtain ⟨before, u, after, own, rfl, hbefore, hread, hentries⟩ := ih hstep h
      exact ⟨e :: before, u, after, own, rfl, hbefore, hread, hentries⟩
    | true =>
      cases e with
      | edit source => exact absurd (hunread.symm.trans hstep) (by decide)
      | use u =>
        have hreads : u.reads = true := by
          refine Bool.of_not_eq_false fun hreserved => ?_
          rw [step, (perform_of_reserved hreserved).1, hunread] at hstep
          cases hstep
        rcases hread : r.source.read with ⟨_ | f, own⟩
        · refine ⟨[], u, es, own, rfl, hunread, hread, ?_⟩
          refine (run_of_loaded hstep es).2.trans ?_
          rw [step, perform_of_read hunread hreads hread, ← Mapping.putAll_append,
            List.append_assoc]
          rfl
        · rw [step, perform_of_read_error hunread hreads hread, hunread] at hstep
          cases hstep

/-- **What a registry holds** that was not read is left over from uses that failed: each
    prompt was described by the file of that time, before what failed. -/
theorem left_of_run {es : List RegistryEvent} {name : String} {e : Entry}
    (hunread : (r.run es).loaded = false) (h : Mapping.get? name (r.run es).entries = some e) :
    Mapping.get? name r.entries = some e ∨
      ∃ before u after f left, es = before ++ .use u :: after ∧
        (r.run before).source.read = (some f, left) ∧ (name, e) ∈ left := by
  induction es using List.reverseRecOn with
  | nil => exact .inl h
  | append_singleton es event ih =>
    have hrun : r.run (es ++ [event]) = (r.run es).step event := List.foldl_append
    rw [hrun] at hunread h
    have hbefore : (r.run es).loaded = false := by
      refine Bool.eq_false_iff.2 fun hloaded => ?_
      exact absurd (hunread.symm.trans (run_of_loaded hloaded [event]).1) (by decide)
    have hearlier (hsame : Mapping.get? name (r.run es).entries = some e) :
        Mapping.get? name r.entries = some e ∨
          ∃ before u after f left, es ++ [event] = before ++ .use u :: after ∧
            (r.run before).source.read = (some f, left) ∧ (name, e) ∈ left := by
      obtain hstart | ⟨before, u, after, f, left, rfl, hread, hmem⟩ := ih hbefore hsame
      · exact .inl hstart
      · exact .inr ⟨before, u, after ++ [event], f, left, by simp, hread, hmem⟩
    cases event with
    | edit source => exact hearlier h
    | use u =>
      cases hreads : u.reads with
      | false =>
        rw [step, (perform_of_reserved hreads).1] at h
        exact hearlier h
      | true =>
        rcases hread : (r.run es).source.read with ⟨_ | f, left⟩
        · rw [step, perform_of_read hbefore hreads hread] at hunread
          cases hunread
        · rw [step, perform_of_read_error hbefore hreads hread, Mapping.get?_putAll,
            Option.or_eq_some_iff] at h
          obtain hleft | ⟨-, hsame⟩ := h
          · have hmem := List.mem_reverse.1 (Mapping.mem_of_get? hleft)
            exact .inr ⟨es, u, [], f, left, rfl, hread, hmem⟩
          · exact hearlier hsame

/-- Some use in the events came to something. -/
def Succeeded (r : Registry) (es : List RegistryEvent) : Prop :=
  ∃ before u after, es = before ++ .use u :: after ∧ ((r.run before).perform u).1 = .ok ()

theorem Succeeded.loaded {es : List RegistryEvent} (h : r.Succeeded es) :
    (r.run es).loaded = true := by
  obtain ⟨before, u, after, rfl, hok⟩ := h
  have hrun : r.run (before ++ .use u :: after) = ((r.run before).step (.use u)).run after :=
    List.foldl_append
  rw [hrun]
  exact (run_of_loaded (loaded_of_succeeds hok) after).1

/-- The registry holds the prompts that were set, the last of each name, and no other. -/
def HoldsOnly (r : Registry) (puts : List (String × Entry)) : Prop :=
  ∀ name, Mapping.get? name r.entries = Mapping.get? name puts.reverse

/-- **What a registry holds** once a use came to something: the prompts of the file that
    was read, overridden by those that were registered, and for any other name what was
    left over before.  It holds nothing else exactly if no name is left over. -/
theorem run_succeeded {source : Source} {es : List RegistryEvent}
    (h : (ofSource source).Succeeded es) :
    ∃ before u after own, es = before ++ .use u :: after ∧
      ((ofSource source).run before).loaded = false ∧
      ((ofSource source).run before).source.read = (none, own) ∧
      (∀ name, Mapping.get? name ((ofSource source).run es).entries =
        (Mapping.get? name (own ++ (u.puts ++ putsOf after)).reverse).or
          (Mapping.get? name ((ofSource source).run before).entries)) ∧
      (((ofSource source).run es).HoldsOnly (own ++ (u.puts ++ putsOf after)) ↔
        ∀ name, Mapping.has name ((ofSource source).run before).entries = true →
          name ∈ Mapping.keys (own ++ (u.puts ++ putsOf after))) := by
  obtain ⟨before, u, after, own, hes, hbefore, hread, hentries⟩ := entries_of_run rfl h.loaded
  have hget (name : String) : Mapping.get? name ((ofSource source).run es).entries =
      (Mapping.get? name (own ++ (u.puts ++ putsOf after)).reverse).or
        (Mapping.get? name ((ofSource source).run before).entries) := by
    rw [hentries, Mapping.get?_putAll]
  refine ⟨before, u, after, own, hes, hbefore, hread, hget, ?_⟩
  unfold HoldsOnly
  simp only [hget, Mapping.get?_reverse_or_eq_iff]

/-- **While the file stays as it is, no name is left over**: what a use comes to is that
    it was read whole. -/
theorem run_uses {us : List Use} (hunread : r.loaded = false)
    (h : (r.run (us.map .use)).loaded = true) :
    ∃ own, r.source.read = (none, own) ∧
      (r.run (us.map .use)).entries =
        Mapping.putAll r.entries (own ++ putsOf (us.map .use)) := by
  induction us generalizing r with
  | nil => exact absurd (hunread.symm.trans h) (by decide)
  | cons u us ih =>
    cases hreads : u.reads with
    | false =>
      obtain ⟨hperform, hputs⟩ := perform_of_reserved (r := r) hreads
      have hrun : r.run ((u :: us).map .use) = r.run (us.map .use) := by
        rw [List.map_cons, run, List.foldl_cons, step, hperform]
        rfl
      rw [hrun] at h ⊢
      obtain ⟨own, hread, hentries⟩ := ih hunread h
      refine ⟨own, hread, hentries.trans ?_⟩
      simp [putsOf, hputs]
    | true =>
      rcases hread : r.source.read with ⟨_ | f, own⟩
      · refine ⟨own, rfl, ?_⟩
        have hstep := perform_of_read hunread hreads hread
        have hloaded : (r.step (.use u)).loaded = true := by rw [step, hstep]
        refine (run_of_loaded hloaded (us.map .use)).2.trans ?_
        rw [step, hstep, ← Mapping.putAll_append, List.append_assoc]
        rfl
      · -- the file stays as it is, so that later uses fail as well
        have hstep := perform_of_read_error hunread hreads hread
        obtain ⟨own', hread', -⟩ :=
          ih (r := r.step (.use u)) (by rw [step, hstep]; exact hunread) h
        rw [step, hstep] at hread'
        cases hread.symm.trans hread'

/-- A file whose second prompt has no number for its version. -/
def spoiledFile : Source :=
  .content (.object [("prompts", .object [("a", .text "x"), ("b", .object [("version", .text "v")])])])

/-- A file with one prompt. -/
def mendedFile : Source :=
  .content (.object [("prompts", .object [("c", .text "z")])])

/-- **A name that is left over**: the first use fails, and after the file was changed the
    second one finds a prompt that it does not describe. -/
theorem run_leftover :
    ((ofSource spoiledFile).perform .names).1 = .error (.fault (.notAnInteger "v")) ∧
    mendedFile.read = (none, [("c", ⟨.text "z", .int 1⟩)]) ∧
    (((ofSource spoiledFile).run [.use .names, .edit mendedFile]).names).1 = .ok ["a", "c"] := by
  refine ⟨rfl, rfl, ?_⟩
  have hnames : (((ofSource spoiledFile).run [.use .names, .edit mendedFile]).names).1 =
      .ok (["a", "c"].mergeSort fun a b => a < b || a == b) := rfl
  rw [hnames, List.mergeSort_of_pairwise (by decide)]

end Registry

end Prompt

end SpanQuest
