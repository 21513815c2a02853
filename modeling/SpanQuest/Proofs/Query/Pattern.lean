/-
  The two patterns that a reply is searched for.

  A pattern is a list of parts, each of which takes characters from the front of
  a text.  Where a part can take them in more than one way, the ways are tried in
  their order, and the first one counts after which the other parts match what is
  left: an optional character is taken before it is left out, and any characters
  are as few, or as many, as will do.  A search tries the places of a text from
  its front on.

  What is located in a reply is what the search for a block finds, or else the
  search for braces.

  * `matchAt?_fewest_cons`, `matchAt?_most_cons`: the order in which any
    characters are tried, one place after the other;
  * `search?_blockPattern`, `search?_bracePattern`: what the two searches find;
  * `locate?_eq_search?`: what is located.
-/
import SpanQuest.Proofs.Query.Locate

namespace SpanQuest.Reply

/-! ## Patterns -/

/-- What a part of a pattern takes. -/
inductive Shape where
  /-- These characters. -/
  | mark (m : List Char)
  /-- This character, or none. -/
  | optional (c : Char)
  /-- Any characters, as few as will do. -/
  | fewest
  /-- Any characters, as many as will do. -/
  | most
  deriving DecidableEq, Repr

/-- A part of a pattern.  What is found are the characters of the parts that are
    kept. -/
structure Part where
  shape : Shape
  isKept : Bool
  deriving DecidableEq, Repr

/-- The ways to cut a text in two, the shortest front first. -/
def cuts : List Char → List (List Char × List Char)
  | [] => [([], [])]
  | c :: cs => ([], c :: cs) :: (cuts cs).map fun p => (c :: p.1, p.2)

/-- The ways in which a part takes characters, in the order in which they are
    tried: what it takes, and what it leaves. -/
def Shape.ways (cs : List Char) : Shape → List (List Char × List Char)
  | mark m => ((stripMark? m cs).map fun rest => (m, rest)).toList
  | optional c => ((stripMark? [c] cs).map fun rest => ([c], rest)).toList ++ [([], cs)]
  | fewest => cuts cs
  | most => (cuts cs).reverse

/-- What a part adds to what the parts after it keep. -/
def Part.keep (p : Part) (taken kept : List Char) : List Char :=
  if p.isKept then taken ++ kept else kept

@[simp] theorem Part.keep_kept (shape : Shape) (taken : List Char) :
    Part.keep ⟨shape, true⟩ taken = (taken ++ ·) := rfl

@[simp] theorem Part.keep_left (shape : Shape) (taken : List Char) :
    Part.keep ⟨shape, false⟩ taken = id := rfl

/-- What a pattern finds at the front of a text. -/
def matchAt? : List Part → List Char → Option (List Char)
  | [], _ => some []
  | p :: ps, cs => (p.shape.ways cs).findSome? fun way => (matchAt? ps way.2).map (p.keep way.1)

/-- What a pattern finds in a text: at the first place where it matches. -/
def search? (ps : List Part) : List Char → Option (List Char)
  | [] => matchAt? ps []
  | c :: cs => (matchAt? ps (c :: cs)).or (search? ps cs)

/-- The end of a block: a line end, if there is one, and the mark. -/
def blockEnd : List Part :=
  [⟨.optional '\n', false⟩, ⟨.mark closeFence, false⟩]

/-- A block of JSON, of which the inside is kept. -/
def blockPattern : List Part :=
  ⟨.mark openFence, false⟩ :: ⟨.optional '\n', false⟩ :: ⟨.fewest, true⟩ :: blockEnd

/-- An opening brace, and all up to a closing one. -/
def bracePattern : List Part :=
  [⟨.mark ['{'], true⟩, ⟨.most, true⟩, ⟨.mark ['}'], true⟩]

/-! ## One part -/

section

variable {ps : List Part} {m : List Char}

theorem matchAt?_mark (isKept : Bool) (rest : List Char) :
    matchAt? (⟨.mark m, isKept⟩ :: ps) (m ++ rest) =
      (matchAt? ps rest).map (Part.keep ⟨.mark m, isKept⟩ m) := by
  have hstrip : stripMark? m (m ++ rest) = some rest := stripMark?_eq_some_iff.2 rfl
  simp [matchAt?, Shape.ways, hstrip]

theorem matchAt?_mark_of_not_prefix {cs : List Char} (isKept : Bool) (h : ¬ m <+: cs) :
    matchAt? (⟨.mark m, isKept⟩ :: ps) cs = none := by
  simp [matchAt?, Shape.ways, stripMark?_eq_none_iff.2 h]

/-- An optional character is taken before it is left out. -/
theorem matchAt?_optional_cons (c : Char) (cs : List Char) :
    matchAt? (⟨.optional c, false⟩ :: ps) (c :: cs) = (matchAt? ps cs).or (matchAt? ps (c :: cs)) := by
  have hstrip : stripMark? [c] (c :: cs) = some cs := stripMark?_eq_some_iff.2 rfl
  cases h : matchAt? ps cs <;> simp [matchAt?, Shape.ways, hstrip, h]

theorem matchAt?_optional_of_head? {c : Char} {cs : List Char} (h : cs.head? ≠ some c) :
    matchAt? (⟨.optional c, false⟩ :: ps) cs = matchAt? ps cs := by
  have hstrip : stripMark? [c] cs = none := by
    rw [stripMark?_eq_none_iff]
    rintro ⟨rest, rfl⟩
    exact h rfl
  simp [matchAt?, Shape.ways, hstrip]

theorem findSome?_map_cons (c : Char) (ways : List (List Char × List Char)) :
    (ways.map fun p => (c :: p.1, p.2)).findSome?
        (fun way => (matchAt? ps way.2).map (way.1 ++ ·)) =
      (ways.findSome? fun way => (matchAt? ps way.2).map (way.1 ++ ·)).map (c :: ·) := by
  rw [List.findSome?_map, List.map_findSome?]
  congr 1
  funext way
  simp [Function.comp_def]

/-- **As few characters as will do**: none is tried first, then one more. -/
theorem matchAt?_fewest_cons (c : Char) (cs : List Char) :
    matchAt? (⟨.fewest, true⟩ :: ps) (c :: cs) =
      (matchAt? ps (c :: cs)).or ((matchAt? (⟨.fewest, true⟩ :: ps) cs).map (c :: ·)) := by
  simp only [matchAt?, Shape.ways, Part.keep_kept]
  rw [cuts, List.findSome?_cons, findSome?_map_cons]
  cases matchAt? ps (c :: cs) <;> rfl

/-- **As many characters as will do**: one more is tried before none. -/
theorem matchAt?_most_cons (c : Char) (cs : List Char) :
    matchAt? (⟨.most, true⟩ :: ps) (c :: cs) =
      ((matchAt? (⟨.most, true⟩ :: ps) cs).map (c :: ·)).or (matchAt? ps (c :: cs)) := by
  simp only [matchAt?, Shape.ways, Part.keep_kept]
  rw [cuts, List.reverse_cons, ← List.map_reverse, List.findSome?_append, findSome?_map_cons]
  cases h : matchAt? ps (c :: cs) <;> simp [h]

end

/-! ## A block -/

theorem matchAt?_blockEnd (cs : List Char) :
    matchAt? blockEnd cs =
      if closeFence <+: cs ∨ '\n' :: closeFence <+: cs then some [] else none := by
  have hmark (cs : List Char) :
      matchAt? [⟨.mark closeFence, false⟩] cs = if closeFence <+: cs then some [] else none := by
    split
    · next h =>
      obtain ⟨rest, rfl⟩ := h
      rw [matchAt?_mark]
      rfl
    · next h => exact matchAt?_mark_of_not_prefix false h
  by_cases hline : cs.head? = some '\n'
  · obtain ⟨rest, rfl⟩ := List.head?_eq_some_iff.1 hline
    have hnot : ¬ closeFence <+: '\n' :: rest := fun h =>
      absurd (List.cons_prefix_cons.1 h).1 (by decide)
    rw [blockEnd, matchAt?_optional_cons, hmark, hmark, if_neg hnot, Option.or_none]
    simp only [hnot, List.cons_prefix_cons, true_and, false_or]
  · have hnot : ¬ '\n' :: closeFence <+: cs := by
      rintro ⟨rest, rfl⟩
      exact hline rfl
    rw [blockEnd, matchAt?_optional_of_head? hline, hmark]
    simp only [hnot, or_false]

/-- A line end at the end of a text of several characters is not its first. -/
theorem dropLastLineEnd_cons {c : Char} {cs : List Char} (h : c = '\n' → cs ≠ []) :
    dropLastLineEnd (c :: cs) = c :: dropLastLineEnd cs := by
  rcases List.eq_nil_or_concat cs with rfl | ⟨front, d, rfl⟩
  · have hc : c ≠ '\n' := fun hc => h hc rfl
    simp [dropLastLineEnd, dropFirstLineEnd, hc]
  · by_cases hd : d = '\n' <;> simp [dropLastLineEnd, dropFirstLineEnd, hd]

/-- **As few characters as will do before the end of a block** are those before the
    first mark that closes it, without the line end next to the mark. -/
theorem matchAt?_inside (cs : List Char) :
    matchAt? (⟨.fewest, true⟩ :: blockEnd) cs =
      (splitAtMark? closeFence cs).map fun p => dropLastLineEnd p.1 := by
  induction cs with
  | nil => rfl
  | cons c cs ih =>
    rw [matchAt?_fewest_cons, ih, matchAt?_blockEnd, splitAtMark?]
    rcases hstrip : stripMark? closeFence (c :: cs) with _ | rest
    · have hmark := stripMark?_eq_none_iff.1 hstrip
      by_cases hline : '\n' :: closeFence <+: c :: cs
      · -- the line end next to the mark is the first character
        obtain ⟨rfl, rest, rfl⟩ := List.cons_prefix_cons.1 hline
        have hsplit : splitAtMark? closeFence (closeFence ++ rest) = some ([], rest) :=
          splitAtMark?_cons_append List.not_mem_nil _ rest
        rw [if_pos (Or.inr hline), hsplit]
        rfl
      · rw [if_neg (not_or.2 ⟨hmark, hline⟩), Option.none_or]
        rcases hsplit : splitAtMark? closeFence cs with _ | ⟨before, after⟩
        · rfl
        · have hbefore : c = '\n' → before ≠ [] := by
            rintro rfl rfl
            exact hline (List.cons_prefix_cons.2 ⟨rfl, after, (eq_of_splitAtMark? hsplit).symm⟩)
          simp only [Option.map_some, dropLastLineEnd_cons hbefore]
    · rw [if_pos (Or.inl ⟨rest, (stripMark?_eq_some_iff.1 hstrip).symm⟩)]
      rfl

/-- **A block at the front of a text** is closed by the first mark after it, and
    the line ends next to the marks do not belong to its inside. -/
theorem matchAt?_blockPattern (inside : List Char) :
    matchAt? blockPattern (openFence ++ inside) =
      (splitAtMark? closeFence inside).map fun p => dropLastLineEnd (dropFirstLineEnd p.1) := by
  rw [blockPattern, matchAt?_mark, Part.keep_left, Option.map_id, id]
  by_cases hline : inside.head? = some '\n'
  · obtain ⟨rest, rfl⟩ := List.head?_eq_some_iff.1 hline
    have hstrip : stripMark? closeFence ('\n' :: rest) = none := by
      rw [stripMark?_eq_none_iff]
      exact fun h => absurd (List.cons_prefix_cons.1 h).1 (by decide)
    rw [matchAt?_optional_cons, matchAt?_inside, matchAt?_inside, splitAtMark?, hstrip]
    rcases splitAtMark? closeFence rest with _ | ⟨before, after⟩ <;> rfl
  · rw [matchAt?_optional_of_head? hline, matchAt?_inside]
    rcases hsplit : splitAtMark? closeFence inside with _ | ⟨before, after⟩
    · rfl
    · have hfirst : dropFirstLineEnd before = before := by
        rw [eq_of_splitAtMark? hsplit] at hline
        rcases before with _ | ⟨c, before⟩
        · rfl
        · have hc : c ≠ '\n' := fun hc => hline (by rw [hc]; rfl)
          simp [dropFirstLineEnd, hc]
      simp only [Option.map_some, hfirst]

theorem closeFence_infix_of_fenced? {cs span : List Char} (h : fenced? cs = some span) :
    ∃ inside, openFence ++ inside <:+ cs ∧ closeFence <:+: inside := by
  unfold fenced? at h
  split at h
  · cases h
  · next before inside hopen =>
    obtain ⟨⟨block, after⟩, hclose, -⟩ := Option.map_eq_some_iff.1 h
    refine ⟨inside, ⟨before, ?_⟩, ⟨block, after, ?_⟩⟩
    · rw [eq_of_splitAtMark? hopen, List.append_assoc]
    · exact (eq_of_splitAtMark? hclose).symm

/-- **The search for a block finds the inside of the first one that is closed.** -/
theorem search?_blockPattern (cs : List Char) : search? blockPattern cs = fenced? cs := by
  induction cs with
  | nil => rfl
  | cons c cs ih =>
    rw [search?, ih]
    rcases hstrip : stripMark? openFence (c :: cs) with _ | inside
    · rw [blockPattern, matchAt?_mark_of_not_prefix false (stripMark?_eq_none_iff.1 hstrip),
        Option.none_or, fenced?, fenced?, splitAtMark?, hstrip]
      rcases splitAtMark? openFence cs with _ | p <;> rfl
    · have hcs := stripMark?_eq_some_iff.1 hstrip
      have hfenced : fenced? (c :: cs) =
          (splitAtMark? closeFence inside).map fun p => dropLastLineEnd (dropFirstLineEnd p.1) := by
        rw [fenced?, splitAtMark?, hstrip]
      rw [hfenced, hcs, matchAt?_blockPattern]
      rcases hclose : splitAtMark? closeFence inside with _ | p
      · -- a later block that is closed would close this one
        rcases hlater : fenced? cs with _ | span
        · rfl
        · obtain ⟨inside', hinside', hmark⟩ := closeFence_infix_of_fenced? hlater
          have hsuffix : inside' <:+ inside := by
            have hthis : inside <:+ c :: cs := ⟨openFence, hcs.symm⟩
            have hthat : inside' <:+ c :: cs :=
              ((List.suffix_append _ _).trans hinside').trans (List.suffix_cons c cs)
            refine List.suffix_of_suffix_length_le hthat hthis ?_
            have hlength := congrArg List.length hcs
            have hlength' := hinside'.length_le
            simp only [List.length_append, List.length_cons] at hlength hlength'
            omega
          exact absurd (hmark.trans hsuffix.isInfix) (splitAtMark?_eq_none_iff.1 hclose)
      · rfl

/-! ## Braces -/

/-- Any characters, and a closing brace. -/
def upToBrace : List Part :=
  [⟨.most, true⟩, ⟨.mark ['}'], true⟩]

theorem matchAt?_closingBrace (cs : List Char) :
    matchAt? [⟨.mark ['}'], true⟩] cs = if cs.head? = some '}' then some ['}'] else none := by
  split
  · next h =>
    obtain ⟨rest, rfl⟩ := List.head?_eq_some_iff.1 h
    exact matchAt?_mark true rest
  · next h =>
    refine matchAt?_mark_of_not_prefix true ?_
    rintro ⟨rest, rfl⟩
    exact h rfl

theorem matchAt?_upToBrace_cons (c : Char) (cs : List Char) :
    matchAt? upToBrace (c :: cs) =
      ((matchAt? upToBrace cs).map (c :: ·)).or (if c = '}' then some ['}'] else none) := by
  rw [upToBrace, matchAt?_most_cons, matchAt?_closingBrace]
  simp

theorem matchAt?_upToBrace_eq_none {cs : List Char} (h : '}' ∉ cs) :
    matchAt? upToBrace cs = none := by
  induction cs with
  | nil => rfl
  | cons c cs ih =>
    obtain ⟨hc, hcs⟩ := List.ne_and_not_mem_of_not_mem_cons h
    rw [matchAt?_upToBrace_cons, ih hcs, if_neg hc.symm]
    rfl

/-- **As many characters as will do before a closing brace** are those before the
    last one. -/
theorem matchAt?_upToBrace {after : List Char} (h : '}' ∉ after) (body : List Char) :
    matchAt? upToBrace (body ++ '}' :: after) = some (body ++ ['}']) := by
  induction body with
  | nil =>
    rw [List.nil_append, matchAt?_upToBrace_cons, matchAt?_upToBrace_eq_none h]
    rfl
  | cons c body ih =>
    rw [List.cons_append, matchAt?_upToBrace_cons, ih]
    rfl

theorem matchAt?_bracePattern (cs : List Char) :
    matchAt? bracePattern ('{' :: cs) = (matchAt? upToBrace cs).map ('{' :: ·) :=
  matchAt?_mark true cs

theorem matchAt?_bracePattern_of_ne {c : Char} (h : c ≠ '{') (cs : List Char) :
    matchAt? bracePattern (c :: cs) = none :=
  matchAt?_mark_of_not_prefix true fun hfront => h (List.cons_prefix_cons.1 hfront).1.symm

theorem search?_bracePattern_append {before : List Char} (h : '{' ∉ before) (rest : List Char) :
    search? bracePattern (before ++ rest) = search? bracePattern rest := by
  induction before with
  | nil => rfl
  | cons c before ih =>
    obtain ⟨hc, hbefore⟩ := List.ne_and_not_mem_of_not_mem_cons h
    rw [List.cons_append, search?, matchAt?_bracePattern_of_ne hc.symm, ih hbefore]
    rfl

theorem search?_bracePattern_eq_none {cs : List Char} (h : '}' ∉ cs) :
    search? bracePattern cs = none := by
  induction cs with
  | nil => rfl
  | cons c cs ih =>
    obtain ⟨-, hcs⟩ := List.ne_and_not_mem_of_not_mem_cons h
    have hhere : matchAt? bracePattern (c :: cs) = none := by
      by_cases hc : c = '{'
      · rw [hc, matchAt?_bracePattern, matchAt?_upToBrace_eq_none hcs]
        rfl
      · exact matchAt?_bracePattern_of_ne hc cs
    rw [search?, hhere, ih hcs]
    rfl

/-- **The search for braces finds what stands from the first opening one to the last
    closing one.** -/
theorem search?_bracePattern (cs : List Char) : search? bracePattern cs = braced? cs := by
  rcases brace_cases cs with ⟨before, body, after, rfl, hbefore, hafter⟩ |
    ⟨before, rest, rfl, hbefore, hrest⟩
  · have hmatch : matchAt? bracePattern ('{' :: (body ++ '}' :: after)) =
        some ('{' :: (body ++ ['}'])) := by
      rw [matchAt?_bracePattern, matchAt?_upToBrace hafter]
      rfl
    have hsplit : before ++ ('{' :: body ++ ['}']) ++ after =
        before ++ '{' :: (body ++ '}' :: after) := by simp
    rw [braced?_among_prose hbefore hafter, hsplit, search?_bracePattern_append hbefore, search?,
      hmatch]
    rfl
  · rw [braced?_eq_none hbefore hrest, search?_bracePattern_append hbefore,
      search?_bracePattern_eq_none hrest]

/-! ## Both -/

/-- **What is located in a reply** is what the search for a block finds, or else the
    search for braces. -/
theorem locate?_eq_search? (cs : List Char) :
    locate? cs = (search? blockPattern cs).or (search? bracePattern cs) := by
  rw [search?_blockPattern, search?_bracePattern, locate?]
  cases fenced? cs <;> rfl

end SpanQuest.Reply
