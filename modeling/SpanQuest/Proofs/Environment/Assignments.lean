/-
  What a file of variables does to the environment.

  The text is cut into lines (`Cut`), and a line assigns a value to a name
  (`Assigns`) if it is no comment and both stand around its first equals sign,
  neither of them empty; any other line is idle (`Idle`).  The first line that
  assigns to a name counts, and only if the variable is not there (`Extended`).  No
  other line has an effect, nor has any file but the first that there is (`Selected`).

  * `Dotenv.lines_eq_iff`: the lines that are read are those of the text;
  * `Dotenv.assignment?_eq_some_iff`: a line is read as what it assigns;
  * `Dotenv.idle_or_assigns`: it assigns something, or it is idle;
  * `Dotenv.get?_foldl_assign`: a variable after assignments, from which
    `Dotenv.load_of_noNul` follows for a text;
  * `Profile.loadVariables_selected`: the file extends the environment, and a
    second time it changes nothing.
-/
import SpanQuest.Environment.Profile
import SpanQuest.Proofs.Environment.Credential
import SpanQuest.Proofs.Text.Ends

namespace SpanQuest

namespace Dotenv

/-! ## Lines -/

/-- No character of the line ends it. -/
def Unbroken (line : List Char) : Prop :=
  ∀ c ∈ line, c ≠ '\n' ∧ c ≠ '\r'

/-- **The lines of a text**: each ends with a line feed, with a carriage return and
    a line feed, or with a carriage return alone; the last one with the text. -/
inductive Cut : List Char → List (List Char) → Prop
  | last {line} : Unbroken line → Cut line [line]
  | lf {line rest lines} : Unbroken line → Cut rest lines →
      Cut (line ++ '\n' :: rest) (line :: lines)
  | crlf {line rest lines} : Unbroken line → Cut rest lines →
      Cut (line ++ '\r' :: '\n' :: rest) (line :: lines)
  | cr {line rest lines} : Unbroken line → rest.head? ≠ some '\n' → Cut rest lines →
      Cut (line ++ '\r' :: rest) (line :: lines)

theorem Unbroken.reverse {line : List Char} (h : Unbroken line) : Unbroken line.reverse :=
  fun c hc => h c (List.mem_reverse.1 hc)

theorem linesFrom_append {line : List Char} (h : Unbroken line) (start rest : List Char) :
    linesFrom start (line ++ rest) = linesFrom (line.reverse ++ start) rest := by
  induction line generalizing start with
  | nil => rfl
  | cons c line ih =>
    obtain ⟨hlf, hcr⟩ := h c (List.mem_cons_self ..)
    have hstep : linesFrom start (c :: (line ++ rest)) = linesFrom (c :: start) (line ++ rest) := by
      rw [linesFrom]
      · simp [hlf, hcr]
      · rintro cs rfl
        exact absurd rfl hcr
    rw [List.cons_append, hstep, ih fun d hd => h d (List.mem_cons_of_mem _ hd),
      List.reverse_cons, List.append_assoc, List.singleton_append]

theorem cut_linesFrom {start : List Char} (h : Unbroken start) (cs : List Char) :
    Cut (start.reverse ++ cs) (linesFrom start cs) := by
  fun_induction linesFrom start cs with
  | case1 start =>
    rw [List.append_nil]
    exact .last h.reverse
  | case2 start cs ih => exact .crlf h.reverse (ih (by simp [Unbroken]))
  | case3 start c cs hnot hc ih =>
    have hrest := ih (by simp [Unbroken])
    rcases (by simpa using hc : c = '\n' ∨ c = '\r') with rfl | rfl
    · exact .lf h.reverse hrest
    · refine .cr h.reverse (fun hhead => ?_) hrest
      obtain ⟨cs', rfl⟩ := List.head?_eq_some_iff.1 hhead
      exact hnot cs' rfl rfl
  | case4 start c cs hnot hc ih =>
    have hline : Unbroken (c :: start) := by
      intro d hd
      rcases List.mem_cons.1 hd with rfl | hd
      · simpa using hc
      · exact h d hd
    simpa using ih hline

theorem Cut.linesFrom_eq {cs : List Char} {ls : List (List Char)} (h : Cut cs ls) :
    linesFrom [] cs = ls := by
  have hfirst {line rest : List Char} (hline : Unbroken line) :
      linesFrom [] (line ++ rest) = linesFrom line.reverse rest := by
    rw [linesFrom_append hline, List.append_nil]
  induction h with
  | @last line hline =>
    rw [← List.append_nil line, hfirst hline, linesFrom, List.reverse_reverse, List.append_nil]
  | lf hline _ ih =>
    rw [hfirst hline, linesFrom, List.reverse_reverse, ih]
    · rfl
    · simp
  | crlf hline _ ih => rw [hfirst hline, linesFrom, List.reverse_reverse, ih]
  | cr hline hhead _ ih =>
    rw [hfirst hline, linesFrom, List.reverse_reverse, ih]
    · rfl
    · rintro cs - rfl
      exact hhead rfl

/-- **The lines that are read are those of the text.** -/
theorem lines_eq_iff {text : String} {ls : List (List Char)} :
    lines text = ls ↔ Cut text.toList ls := by
  constructor
  · rintro rfl
    have hnone : Unbroken [] := by simp [Unbroken]
    exact cut_linesFrom hnone text.toList
  · exact Cut.linesFrom_eq

theorem Cut.mem {cs line : List Char} {ls : List (List Char)} {c : Char} (h : Cut cs ls)
    (hline : line ∈ ls) (hc : c ∈ line) : c ∈ cs := by
  induction h with
  | last _ => exact List.mem_singleton.1 hline ▸ hc
  | lf _ _ ih | crlf _ _ ih | cr _ _ _ ih =>
    rcases List.mem_cons.1 hline with rfl | hline
    · exact List.mem_append_left _ hc
    · exact List.mem_append_right _ (by simp [ih hline])

/-! ## Assignments -/

section

variable {line : List Char} {name value : String}

/-- **What a line assigns**: blanks around the line, the name and the value do not
    count, nor do quotes at both ends of the value.  A comment assigns nothing,
    nor does a line without an equals sign, a name or a value. -/
inductive Assigns (line : List Char) (name value : String) : Prop where
  | intro (inner left right quoted : List Char)
      (trimmed : Text.Stripped Text.isBlank line inner)
      (uncommented : inner.head? ≠ some '#')
      (parted : inner = left ++ '=' :: right) (first : '=' ∉ left)
      (named : Text.Stripped Text.isBlank left name.toList)
      (right_trimmed : Text.Stripped Text.isBlank right quoted)
      (unquoted : Text.Stripped isQuote quoted value.toList)
      (name_nonempty : name ≠ "") (value_nonempty : value ≠ "")

/-- **A line without effect**: a blank one, a comment, or a malformed one, without an
    equals sign, a name or a value. -/
inductive Idle (line : List Char) : Prop where
  | blank (trimmed : Text.Stripped Text.isBlank line [])
  | comment (rest : List Char) (trimmed : Text.Stripped Text.isBlank line ('#' :: rest))
  | unmarked (h : '=' ∉ line)
  | nameless (left right : List Char)
      (trimmed : Text.Stripped Text.isBlank line (left ++ '=' :: right)) (first : '=' ∉ left)
      (unnamed : Text.Stripped Text.isBlank left [])
  | valueless (left right quoted : List Char)
      (trimmed : Text.Stripped Text.isBlank line (left ++ '=' :: right)) (first : '=' ∉ left)
      (right_trimmed : Text.Stripped Text.isBlank right quoted)
      (unquoted : Text.Stripped isQuote quoted [])

theorem parted_iff {cs left right : List Char} :
    cs = left ++ '=' :: right ∧ '=' ∉ left ↔
      cs.contains '=' = true ∧ cs.takeWhile (· != '=') = left ∧
        (cs.dropWhile (· != '=')).drop 1 = right := by
  constructor
  · rintro ⟨rfl, hleft⟩
    have hall : ∀ c ∈ left, (c != '=') = true := fun c hc =>
      bne_iff_ne.2 fun heq => hleft (heq ▸ hc)
    refine ⟨by simp, ?_, ?_⟩
    · rw [List.takeWhile_append_of_pos hall, List.takeWhile_cons_of_neg (by decide),
        List.append_nil]
    · rw [List.dropWhile_append_of_pos hall, List.dropWhile_cons_of_neg (by decide)]
      rfl
  · rintro ⟨hmark, rfl, rfl⟩
    have hbefore : '=' ∉ cs.takeWhile (· != '=') := fun hmem => by
      simpa using List.all_eq_true.1 List.all_takeWhile _ hmem
    have hsplit := List.takeWhile_append_dropWhile (p := (· != '=')) (l := cs)
    refine ⟨?_, hbefore⟩
    rcases hrest : cs.dropWhile (· != '=') with _ | ⟨c, rest⟩
    · rw [hrest, List.append_nil] at hsplit
      rw [hsplit] at hbefore
      exact absurd (List.contains_iff_mem.1 hmark) hbefore
    · have hhead : (cs.dropWhile (· != '=')).head? = some c := by rw [hrest]; rfl
      obtain rfl : c = '=' := by simpa using Text.eq_false_of_head?_dropWhile hhead
      rw [hrest] at hsplit
      exact hsplit.symm

/-- **A line is read as what it assigns.** -/
theorem assignment?_eq_some_iff : assignment? line = some (name, value) ↔ Assigns line name value := by
  unfold assignment?
  constructor
  · intro h
    dsimp only at h
    split at h
    · cases h
    next hline =>
    split at h
    · cases h
    next hboth =>
    simp only [Option.some.injEq, Prod.mk.injEq] at h
    obtain ⟨rfl, rfl⟩ := h
    simp only [Bool.or_eq_true, beq_iff_eq, Bool.not_eq_true', not_or, Bool.not_eq_false] at hline
    simp only [Bool.or_eq_true, List.isEmpty_iff, not_or] at hboth
    obtain ⟨hparted, hfirst⟩ := parted_iff.2 ⟨hline.2, rfl, rfl⟩
    refine ⟨_, _, _, _, Text.trimChars_eq_iff.1 rfl, hline.1, hparted, hfirst, ?_,
      Text.trimChars_eq_iff.1 rfl, ?_, ?_, ?_⟩
    · rw [String.toList_ofList]
      exact Text.trimChars_eq_iff.1 rfl
    · rw [String.toList_ofList]
      exact Text.dropEnds_eq_iff.1 rfl
    · simpa [← String.toList_inj] using hboth.1
    · simpa [← String.toList_inj] using hboth.2
  · rintro ⟨inner, left, right, quoted, htrim, hcomment, hparted, hfirst, hname, hright, hvalue, hn, hv⟩
    obtain ⟨hmark, hleft, hrest⟩ := parted_iff.1 ⟨hparted, hfirst⟩
    have hunquote : unquote quoted = value.toList := Text.dropEnds_eq_iff.2 hvalue
    have hmark := List.contains_iff_mem.1 hmark
    simp [Text.trimChars_eq_iff.2 htrim, hcomment, hmark, hleft, hrest,
      Text.trimChars_eq_iff.2 hname, Text.trimChars_eq_iff.2 hright, hunquote, hn, hv]

theorem Assigns.mem {c : Char} (h : Assigns line name value)
    (hc : c ∈ name.toList ∨ c ∈ value.toList) : c ∈ line := by
  obtain ⟨inner, left, right, quoted, htrim, -, rfl, -, hname, hright, hvalue, -, -⟩ := h
  refine htrim.mem ?_
  rcases hc with hc | hc
  · exact List.mem_append_left _ (hname.mem hc)
  · exact List.mem_append_right _ (List.mem_cons_of_mem _ (hright.mem (hvalue.mem hc)))

theorem mem_of_trimmed {inner : List Char} (h : Text.Stripped Text.isBlank line inner)
    (hmark : '=' ∈ line) : '=' ∈ inner := by
  obtain ⟨before, after, rfl, hbefore, hafter⟩ := h.within
  rcases List.mem_append.1 hmark with hmem | hmem
  · exact absurd (hbefore _ hmem) (by decide)
  rcases List.mem_append.1 hmem with hmem | hmem
  · exact hmem
  · exact absurd (hafter _ hmem) (by decide)

theorem Idle.not_assigns (h : Idle line) : ¬ Assigns line name value := by
  rintro ⟨inner, left, right, quoted, htrim, hcomment, hparted, hfirst, hname, hright, hvalue,
    hn, hv⟩
  have hsides {left' right' : List Char}
      (htrim' : Text.Stripped Text.isBlank line (left' ++ '=' :: right')) (hfirst' : '=' ∉ left') :
      left' = left ∧ right' = right := by
    obtain ⟨-, hleft, hrest⟩ := parted_iff.1 ⟨hparted, hfirst⟩
    obtain ⟨-, hleft', hrest'⟩ := parted_iff.1 ⟨htrim.eq htrim', hfirst'⟩
    exact ⟨hleft'.symm.trans hleft, hrest'.symm.trans hrest⟩
  cases h with
  | blank htrim' => exact absurd ((htrim.eq htrim').symm.trans hparted) (by simp)
  | comment rest htrim' => exact hcomment (by rw [htrim.eq htrim']; rfl)
  | unmarked hmark => exact hmark (htrim.mem (hparted ▸ by simp))
  | nameless left' right' htrim' hfirst' hnone =>
    obtain ⟨rfl, -⟩ := hsides htrim' hfirst'
    exact hn (String.toList_inj.1 (hname.eq hnone))
  | valueless left' right' quoted' htrim' hfirst' hright' hnone =>
    obtain ⟨-, rfl⟩ := hsides htrim' hfirst'
    obtain rfl := hright.eq hright'
    exact hv (String.toList_inj.1 (hvalue.eq hnone))

/-- **A line has no effect or assigns a value.** -/
theorem idle_or_assigns (line : List Char) : Idle line ∨ ∃ name value, Assigns line name value := by
  by_cases hmark : '=' ∈ line
  swap
  · exact .inl (.unmarked hmark)
  have htrim : Text.Stripped Text.isBlank line (Text.trimChars line) := Text.trimChars_eq_iff.1 rfl
  obtain ⟨left, right, hparted, hfirst⟩ :
      ∃ left right, Text.trimChars line = left ++ '=' :: right ∧ '=' ∉ left :=
    ⟨_, _, parted_iff.2 ⟨List.contains_iff_mem.2 (mem_of_trimmed htrim hmark), rfl, rfl⟩⟩
  have hsides := hparted ▸ htrim
  have hname : Text.Stripped Text.isBlank left (Text.trimChars left) := Text.trimChars_eq_iff.1 rfl
  have hright : Text.Stripped Text.isBlank right (Text.trimChars right) :=
    Text.trimChars_eq_iff.1 rfl
  have hvalue : Text.Stripped isQuote (Text.trimChars right) (unquote (Text.trimChars right)) :=
    Text.dropEnds_eq_iff.1 rfl
  by_cases hcomment : (Text.trimChars line).head? = some '#'
  · obtain ⟨rest, hrest⟩ := List.head?_eq_some_iff.1 hcomment
    exact .inl (.comment rest (hrest ▸ htrim))
  by_cases hnone : Text.trimChars left = []
  · exact .inl (.nameless left right hsides hfirst (hnone ▸ hname))
  by_cases hempty : unquote (Text.trimChars right) = []
  · exact .inl (.valueless left right _ hsides hfirst hright (hempty ▸ hvalue))
  refine .inr ⟨String.ofList (Text.trimChars left),
    String.ofList (unquote (Text.trimChars right)), ?_⟩
  refine ⟨_, left, right, _, htrim, hcomment, hparted, hfirst, ?_, hright, ?_, ?_, ?_⟩
  · rwa [String.toList_ofList]
  · rwa [String.toList_ofList]
  · simpa [← String.toList_inj] using hnone
  · simpa [← String.toList_inj] using hempty

end

/-- **The first line that assigns to a name** assigns this value. -/
def FirstAssigned (text name value : String) : Prop :=
  ∃ before line after, Cut text.toList (before ++ line :: after) ∧ Assigns line name value ∧
    ∀ earlier ∈ before, ∀ other, ¬ Assigns earlier name other

/-- The value that a line assigns to a name, if it assigns to it. -/
def valueFor? (name : String) (line : List Char) : Option String :=
  (assignment? line).bind fun a => if a.1 = name then some a.2 else none

theorem valueFor?_eq_some_iff {line : List Char} {name value : String} :
    valueFor? name line = some value ↔ Assigns line name value := by
  rw [← assignment?_eq_some_iff]
  unfold valueFor?
  rcases assignment? line with _ | ⟨other, v⟩
  · simp
  · by_cases hname : other = name <;> simp [hname]

theorem get?_filterMap_assignment? (name : String) (ls : List (List Char)) :
    Mapping.get? name (ls.filterMap assignment?) = ls.findSome? (valueFor? name) := by
  induction ls with
  | nil => rfl
  | cons line ls ih =>
    rw [List.filterMap_cons, List.findSome?_cons, ← ih]
    unfold valueFor?
    rcases assignment? line with _ | ⟨other, v⟩
    · rfl
    · by_cases hname : other = name <;> simp [Mapping.get?, hname]

/-- **The first assignment to a name** is that of the first line that assigns to it. -/
theorem get?_assignments_eq_some_iff {text name value : String} :
    Mapping.get? name (assignments text) = some value ↔ FirstAssigned text name value := by
  unfold assignments FirstAssigned
  simp only [get?_filterMap_assignment?, List.findSome?_eq_some_iff, lines_eq_iff,
    valueFor?_eq_some_iff, Option.eq_none_iff_forall_ne_some, Ne]

/-! ## The environment -/

/-- **The environment that a text extends**: what was there stays as it was and where
    it was, and every other variable has the value that the text assigns first. -/
structure Extended (env : Environment) (text : String) (env' : Environment) : Prop where
  kept : env <+: env'
  distinct : (Mapping.keys env).Nodup → (Mapping.keys env').Nodup
  added : ∀ name value, Mapping.has name env = false →
    (Mapping.get? name env' = some value ↔ FirstAssigned text name value)

variable {env : Environment} {as : List (String × String)}

theorem assign_of_has {a : String × String} (h : Mapping.has a.1 env = true) :
    assign env a = env :=
  if_pos h

theorem assign_of_new {a : String × String} (h : Mapping.has a.1 env = false) :
    assign env a = env ++ [a] := by
  have hmissing : a.1 ∉ Mapping.keys env :=
    Mapping.get?_eq_none_iff.1 (by simpa [Mapping.has] using h)
  unfold assign
  rw [if_neg (by simp [h]), Mapping.put_of_not_mem hmissing]

/-- **A variable after assignments** is as it was, or else as the first assignment to
    it says. -/
theorem get?_foldl_assign (as : List (String × String)) (env : Environment) (name : String) :
    Mapping.get? name (as.foldl assign env) =
      (Mapping.get? name env).or (Mapping.get? name as) := by
  induction as generalizing env with
  | nil => simp [Mapping.get?]
  | cons a as ih =>
    rw [List.foldl_cons, ih]
    cases hhas : Mapping.has a.1 env with
    | true =>
      rw [assign_of_has hhas]
      by_cases hname : a.1 = name
      · obtain ⟨v, hv⟩ := Option.isSome_iff_exists.1 (hname ▸ hhas)
        rw [hv, Option.some_or, Option.some_or]
      · simp [Mapping.get?, hname]
    | false =>
      rw [assign_of_new hhas, Mapping.get?_append, Option.or_assoc]
      by_cases hname : a.1 = name <;> simp [Mapping.get?, hname]

theorem foldl_assign_of_has (h : ∀ a ∈ as, Mapping.has a.1 env = true) :
    as.foldl assign env = env := by
  induction as with
  | nil => rfl
  | cons a as ih =>
    rw [List.foldl_cons, assign_of_has (h a (List.mem_cons_self ..))]
    exact ih fun b hb => h b (List.mem_cons_of_mem _ hb)

theorem prefix_foldl_assign (as : List (String × String)) (env : Environment) :
    env <+: as.foldl assign env := by
  induction as generalizing env with
  | nil => exact List.prefix_rfl
  | cons a as ih =>
    refine List.IsPrefix.trans ?_ (ih (assign env a))
    cases hhas : Mapping.has a.1 env with
    | true => rw [assign_of_has hhas]
    | false => exact assign_of_new hhas ▸ List.prefix_append env [a]

theorem nodup_foldl_assign (as : List (String × String)) (h : (Mapping.keys env).Nodup) :
    (Mapping.keys (as.foldl assign env)).Nodup := by
  induction as generalizing env with
  | nil => exact h
  | cons a as ih =>
    refine ih ?_
    unfold assign
    split
    · exact h
    · exact Mapping.nodup_keys_put a.1 a.2 h

theorem extend_of_noNul
    (h : ∀ a ∈ as, Environment.hasNul a.1 = false ∧ Environment.hasNul a.2 = false) :
    extend env as = .ok (as.foldl assign env) := by
  induction as generalizing env with
  | nil => rfl
  | cons a as ih =>
    obtain ⟨hname, hvalue⟩ := h a (List.mem_cons_self ..)
    rw [extend, hname, hvalue]
    simpa using ih fun b hb => h b (List.mem_cons_of_mem _ hb)

/-- **Loading extends the environment**, all at once: a second time it changes nothing. -/
theorem load_of_noNul {text : String} (h : '\x00' ∉ text.toList) (env : Environment) :
    ∃ env', load env text = .ok env' ∧ Extended env text env' ∧ load env' text = .ok env' := by
  have hplain : ∀ a ∈ assignments text,
      Environment.hasNul a.1 = false ∧ Environment.hasNul a.2 = false := by
    intro a ha
    obtain ⟨line, hline, hassigned⟩ := List.mem_filterMap.1 ha
    have hmem {c : Char} (hc : c ∈ a.1.toList ∨ c ∈ a.2.toList) : c ∈ text.toList :=
      (lines_eq_iff.1 rfl).mem hline ((assignment?_eq_some_iff.1 hassigned).mem hc)
    simp only [Environment.hasNul, List.contains_eq_mem, decide_eq_false_iff_not]
    exact ⟨fun hnul => h (hmem (.inl hnul)), fun hnul => h (hmem (.inr hnul))⟩
  refine ⟨_, extend_of_noNul hplain, ⟨prefix_foldl_assign .., nodup_foldl_assign _, ?_⟩, ?_⟩
  · intro name value hnew
    have hmissing : Mapping.get? name env = none := by simpa [Mapping.has] using hnew
    rw [get?_foldl_assign, hmissing, Option.none_or, get?_assignments_eq_some_iff]
  · refine (extend_of_noNul hplain).trans (congrArg _ (foldl_assign_of_has fun a ha => ?_))
    have hsome : (Mapping.get? a.1 (assignments text)).isSome = true := by
      rw [Option.isSome_iff_ne_none, Ne, Mapping.get?_eq_none_iff, not_not]
      exact List.mem_map_of_mem ha
    rw [Mapping.has, get?_foldl_assign, Option.isSome_or, hsome, Bool.or_true]

/-- Without a line that has no effect, a text does the same. -/
theorem load_without_idle {text text' : String} {before after : List (List Char)}
    {line : List Char} (hidle : Idle line) (hcut : Cut text.toList (before ++ line :: after))
    (hcut' : Cut text'.toList (before ++ after)) (env : Environment) :
    load env text' = load env text := by
  have hnone : assignment? line = none := by
    refine Option.eq_none_iff_forall_ne_some.2 fun a ha => ?_
    exact hidle.not_assigns (assignment?_eq_some_iff.1 ha)
  unfold load assignments
  rw [lines_eq_iff.2 hcut, lines_eq_iff.2 hcut', List.filterMap_append, List.filterMap_append,
    List.filterMap_cons_none hnone]

theorem Extended.get?_of_has {text name : String} {env' : Environment}
    (h : Extended env text env') (hhas : Mapping.has name env = true) :
    Mapping.get? name env' = Mapping.get? name env := by
  obtain ⟨added, rfl⟩ := h.kept
  obtain ⟨v, hv⟩ := Option.isSome_iff_exists.1 hhas
  rw [Mapping.get?_append, hv, Option.some_or]

end Dotenv

/-! ## Files -/

namespace Profile

variable {disk : Disk} {env : Environment} {asked : Option String} {text : String}

/-- A candidate names no file: there is nothing, or a directory. -/
def NoFile (disk : Disk) (file : VariableFile) : Prop :=
  disk.look file.path = .ok none ∨ disk.look file.path = .ok (some .directory)

/-- **The first of the candidates that names a file** holds the text.  What can only
    name a directory, as a path with a slash at its end, names no file. -/
inductive FirstHolds (disk : Disk) (text : String) : List VariableFile → Prop
  | here {file rest} : disk.look file.path = .ok (some (.file text.toUTF8)) →
      file.onlyDirectory = false → FirstHolds disk text (file :: rest)
  | later {file rest} : NoFile disk file → FirstHolds disk text rest →
      FirstHolds disk text (file :: rest)

/-- The file of variables that is selected holds the text. -/
def Selected (disk : Disk) (env : Environment) (asked : Option String) (text : String) : Prop :=
  ∃ files, candidates env asked = .ok files ∧ FirstHolds disk text files

theorem FirstHolds.firstFile?_eq {files : List VariableFile} (h : FirstHolds disk text files) :
    firstFile? disk files = .ok (some text.toUTF8) := by
  induction h with
  | here hlook hnamed => simp [firstFile?, hlook, hnamed]
  | later hnone _ ih => rcases hnone with hlook | hlook <;> simp [firstFile?, hlook, ih]

theorem Selected.loadVariables_eq (h : Selected disk env asked text) :
    loadVariables disk env asked = Dotenv.load env text := by
  obtain ⟨files, hcandidates, hfirst⟩ := h
  unfold loadVariables
  rw [hcandidates]
  simp only [bind, Except.bind]
  rw [hfirst.firstFile?_eq]
  dsimp only
  rw [Text.fromUTF8?_toUTF8]

/-- Which files are the candidates is settled: one is asked for, or home is known. -/
def Settled (env : Environment) (asked : Option String) : Prop :=
  (∃ path, asked = some path ∧ path ≠ "") ∨ Mapping.has "HOME" env = true

/-- Loading changes no candidate, unless it is what makes home known. -/
theorem candidates_of_extended {env' : Environment} (h : Dotenv.Extended env text env')
    (hsettled : Settled env asked) : candidates env' asked = candidates env asked := by
  rcases hsettled with ⟨path, rfl, hpath⟩ | hhome
  · simp [candidates, Option.filter, hpath]
  · unfold candidates variableOr
    rw [h.get?_of_has hhome]

/-- **Loading a file of variables**: it extends the environment by what the text assigns
    first.  A line without effect makes no difference.  After that the same text changes
    nothing, from whichever disk it comes, and so does the same call, unless the file is
    what made home known. -/
theorem loadVariables_selected (hselected : Selected disk env asked text)
    (hnul : '\x00' ∉ text.toList) :
    ∃ env', loadVariables disk env asked = .ok env' ∧ Dotenv.Extended env text env' ∧
      (∀ before line after text', Dotenv.Cut text.toList (before ++ line :: after) →
        Dotenv.Idle line → Dotenv.Cut text'.toList (before ++ after) →
        ∀ disk' asked', Selected disk' env asked' text' →
          loadVariables disk' env asked' = .ok env') ∧
      (∀ disk' asked', Selected disk' env' asked' text →
        loadVariables disk' env' asked' = .ok env') ∧
      (Settled env asked → loadVariables disk env' asked = .ok env') := by
  obtain ⟨env', hload, hextended, hagain⟩ := Dotenv.load_of_noNul hnul env
  have hsame {disk' : Disk} {asked' : Option String} (h : Selected disk' env' asked' text) :
      loadVariables disk' env' asked' = .ok env' := h.loadVariables_eq.trans hagain
  refine ⟨env', hselected.loadVariables_eq.trans hload, hextended, ?_, fun _ _ => hsame, ?_⟩
  · intro before line after text' hcut hidle hcut' disk' asked' hselected'
    rw [hselected'.loadVariables_eq, Dotenv.load_without_idle hidle hcut hcut', hload]
  · intro hsettled
    obtain ⟨files, hcandidates, hfirst⟩ := hselected
    exact hsame ⟨files, (candidates_of_extended hextended hsettled).trans hcandidates, hfirst⟩

/-- A file with a comment, quotes, a name without a value, and each end of a line. -/
def coloursText : String := "# colours\nSKY = 'blue=\"1\"'\r\nSEA=\rSUN=red\nSKY=grey"

/-- A disk where it is the file of the working directory. -/
def coloursDisk : Disk := ⟨[([".env"], .file coloursText.toUTF8)]⟩

/-- An environment with an empty variable. -/
def sunless : Environment := [("SUN", "")]

theorem selected_colours (env : Environment) :
    Selected coloursDisk env (some ".env") coloursText :=
  ⟨_, candidates_dotenv env, .here rfl rfl⟩

/-- The first line for the sky counts, and the sun stays empty. -/
theorem loadVariables_selected_colours :
    Selected coloursDisk sunless (some ".env") coloursText ∧ '\x00' ∉ coloursText.toList ∧
    loadVariables coloursDisk sunless (some ".env") =
      .ok [("SUN", ""), ("SKY", "blue=\"1")] ∧
    Dotenv.Extended sunless coloursText [("SUN", ""), ("SKY", "blue=\"1")] := by
  have hnul : '\x00' ∉ coloursText.toList := by decide
  obtain ⟨env', hload, hextended, -⟩ := loadVariables_selected (selected_colours sunless) hnul
  have hvalue : loadVariables coloursDisk sunless (some ".env") =
      .ok [("SUN", ""), ("SKY", "blue=\"1")] :=
    (selected_colours sunless).loadVariables_eq.trans rfl
  obtain rfl : env' = [("SUN", ""), ("SKY", "blue=\"1")] :=
    Except.ok.inj (hload.symm.trans hvalue)
  exact ⟨selected_colours sunless, hnul, hvalue, hextended⟩

end Profile

end SpanQuest
