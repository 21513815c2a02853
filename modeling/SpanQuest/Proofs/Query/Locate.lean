/-
  Where the object of a reply stands.

  What is located is always a part of the reply.  Where the reply has no mark
  of a block of JSON, prose around an object does not matter, as long as there
  is no opening brace before it and no closing one after it.

  * `splitAtMark?_eq_none_iff`: a mark is found exactly if it occurs;
  * `splitAtMark?_cons_append`, `splitAtMark?_append_cons`: where it is found;
  * `infix_of_locate?`: what is located stands in the reply;
  * `locate?_among_prose`: an object among prose is located.
-/
import Mathlib.Data.List.TakeWhile
import SpanQuest.Json.Printer
import SpanQuest.Query.Reply

namespace SpanQuest.Reply

/-! ## Marks -/

theorem stripMark?_eq_some_iff {mark cs rest : List Char} :
    stripMark? mark cs = some rest ↔ cs = mark ++ rest := by
  induction mark generalizing cs with
  | nil => simp [stripMark?]
  | cons m mark ih =>
    cases cs with
    | nil => simp [stripMark?]
    | cons c cs =>
      by_cases hm : m = c
      · simp [stripMark?, hm, ih]
      · simp [stripMark?, hm, Ne.symm hm]

theorem stripMark?_eq_none_iff {mark cs : List Char} :
    stripMark? mark cs = none ↔ ¬ mark <+: cs := by
  rw [Option.eq_none_iff_forall_ne_some]
  constructor
  · rintro hnone ⟨rest, rfl⟩
    exact hnone rest (stripMark?_eq_some_iff.2 rfl)
  · intro hfront rest hrest
    exact hfront ⟨rest, (stripMark?_eq_some_iff.1 hrest).symm⟩

theorem eq_of_splitAtMark? {mark cs before after : List Char}
    (h : splitAtMark? mark cs = some (before, after)) : cs = before ++ mark ++ after := by
  induction cs generalizing before with
  | nil =>
    obtain ⟨rest, hrest, heq⟩ := Option.map_eq_some_iff.1 h
    cases heq
    exact stripMark?_eq_some_iff.1 hrest
  | cons c cs ih =>
    rw [splitAtMark?] at h
    split at h
    · next rest hrest =>
      cases h
      exact stripMark?_eq_some_iff.1 hrest
    · obtain ⟨⟨front, back⟩, hsplit, heq⟩ := Option.map_eq_some_iff.1 h
      cases heq
      rw [ih hsplit]
      rfl

/-- **A mark is found exactly if it occurs.** -/
theorem splitAtMark?_eq_none_iff {mark cs : List Char} :
    splitAtMark? mark cs = none ↔ ¬ mark <:+: cs := by
  induction cs with
  | nil =>
    rw [splitAtMark?, Option.map_eq_none_iff, stripMark?_eq_none_iff, List.prefix_nil,
      List.infix_nil]
  | cons c cs ih =>
    rw [splitAtMark?, List.infix_cons_iff, not_or, ← stripMark?_eq_none_iff]
    cases hstrip : stripMark? mark (c :: cs) with
    | none => simp [ih]
    | some rest => simp

theorem splitAtMark?_append_right {mark cs before after : List Char} (more : List Char)
    (h : splitAtMark? mark cs = some (before, after)) :
    splitAtMark? mark (cs ++ more) = some (before, after ++ more) := by
  induction cs generalizing before with
  | nil =>
    obtain ⟨rest, hrest, heq⟩ := Option.map_eq_some_iff.1 h
    obtain ⟨rfl, rfl⟩ := Prod.mk.inj heq
    have hnil := stripMark?_eq_some_iff.1 hrest
    obtain ⟨rfl, rfl⟩ := List.append_eq_nil_iff.1 hnil.symm
    cases more <;> rfl
  | cons c cs ih =>
    rw [splitAtMark?] at h
    rw [List.cons_append, splitAtMark?]
    split at h
    · next rest hrest =>
      obtain ⟨rfl, rfl⟩ := Prod.mk.inj (Option.some.inj h)
      have hmore : stripMark? mark (c :: (cs ++ more)) = some (rest ++ more) := by
        rw [stripMark?_eq_some_iff, ← List.cons_append, stripMark?_eq_some_iff.1 hrest,
          List.append_assoc]
      rw [hmore]
    · next hstrip =>
      obtain ⟨⟨front, back⟩, hsplit, heq⟩ := Option.map_eq_some_iff.1 h
      obtain ⟨rfl, rfl⟩ := Prod.mk.inj heq
      -- the mark does not begin here with more text either: it is not that long
      have hmore : stripMark? mark (c :: (cs ++ more)) = none := by
        rw [stripMark?_eq_none_iff] at hstrip ⊢
        intro hfront
        have hlength : mark.length ≤ (c :: cs).length := by
          rw [eq_of_splitAtMark? hsplit]
          simp only [List.length_cons, List.length_append]
          omega
        exact hstrip (List.prefix_of_prefix_length_le hfront ⟨more, rfl⟩ hlength)
      rw [hmore, ih hsplit]
      rfl

/-- **A mark is found where it first begins.** -/
theorem splitAtMark?_cons_append {m : Char} {before : List Char} (h : m ∉ before)
    (mark after : List Char) :
    splitAtMark? (m :: mark) (before ++ m :: mark ++ after) = some (before, after) := by
  induction before with
  | nil =>
    have hstrip : stripMark? (m :: mark) (m :: (mark ++ after)) = some after :=
      stripMark?_eq_some_iff.2 rfl
    rw [List.nil_append, List.cons_append, splitAtMark?, hstrip]
  | cons c before ih =>
    obtain ⟨hc, hbefore⟩ := List.ne_and_not_mem_of_not_mem_cons h
    have hstrip : stripMark? (m :: mark) (c :: (before ++ m :: mark ++ after)) = none := by
      rw [stripMark?_eq_none_iff, List.cons_prefix_cons]
      exact fun hfront => hc hfront.1
    rw [List.cons_append, List.cons_append, splitAtMark?, hstrip, ih hbefore]
    rfl

section

variable {mark : List Char} {x : Char}

/-- A mark at the front ends before a character that is not in it. -/
theorem prefix_of_prefix_append_cons (hx : x ∉ mark) (front : List Char) {back : List Char}
    (h : mark <+: front ++ x :: back) : mark <+: front := by
  rcases List.prefix_or_prefix_of_prefix h (List.prefix_append front (x :: back)) with
    hfront | ⟨beyond, rfl⟩
  · exact hfront
  · rw [List.prefix_append_right_inj] at h
    rcases beyond with _ | ⟨y, beyond⟩
    · simp
    · obtain ⟨rfl, -⟩ := List.cons_prefix_cons.1 h
      exact absurd (List.mem_append_right front (List.mem_cons_self ..)) hx

/-- A mark stands on one side of a character that is not in it. -/
theorem infix_append_cons (hx : x ∉ mark) {front back : List Char}
    (h : mark <:+: front ++ x :: back) : mark <:+: front ∨ mark <:+: back := by
  induction front with
  | nil =>
    rcases List.infix_cons_iff.1 h with hfront | hback
    · exact Or.inl (prefix_of_prefix_append_cons hx [] hfront).isInfix
    · exact Or.inr hback
  | cons c front ih =>
    rcases List.infix_cons_iff.1 h with hfront | hrest
    · exact Or.inl (prefix_of_prefix_append_cons hx (c :: front) hfront).isInfix
    · exact (ih hrest).imp_left List.infix_cons

/-- **A mark after a character that is not in it** is found there, unless it occurs
    before. -/
theorem splitAtMark?_append_cons (hx : x ∉ mark) {front : List Char} (h : ¬ mark <:+: front)
    (after : List Char) :
    splitAtMark? mark (front ++ x :: (mark ++ after)) = some (front ++ [x], after) := by
  have hnil : mark ≠ [] := by
    rintro rfl
    exact h List.nil_infix
  induction front with
  | nil =>
    have hstrip : stripMark? mark (x :: (mark ++ after)) = none := by
      rw [stripMark?_eq_none_iff]
      intro hfront
      exact hnil (List.prefix_nil.1 (prefix_of_prefix_append_cons hx [] hfront))
    have hfound : splitAtMark? mark (mark ++ after) = some ([], after) := by
      obtain ⟨m, ms, rfl⟩ := List.exists_cons_of_ne_nil hnil
      exact splitAtMark?_cons_append List.not_mem_nil ms after
    rw [List.nil_append, splitAtMark?, hstrip, hfound]
    rfl
  | cons c front ih =>
    rw [List.infix_cons_iff, not_or] at h
    have hstrip : stripMark? mark (c :: (front ++ x :: (mark ++ after))) = none := by
      rw [stripMark?_eq_none_iff]
      exact fun hfront => h.1 (prefix_of_prefix_append_cons hx (c :: front) hfront)
    rw [List.cons_append, splitAtMark?, hstrip, ih h.2]
    rfl

end

/-! ## Spans -/

theorem dropFirstLineEnd_suffix (cs : List Char) : dropFirstLineEnd cs <:+ cs := by
  unfold dropFirstLineEnd
  split
  · exact List.suffix_cons _ _
  · exact List.suffix_rfl

theorem dropLastLineEnd_isPrefix (cs : List Char) : dropLastLineEnd cs <+: cs := by
  unfold dropLastLineEnd
  rw [← List.reverse_suffix, List.reverse_reverse]
  exact dropFirstLineEnd_suffix _

theorem infix_of_fenced? {cs span : List Char} (h : fenced? cs = some span) : span <:+: cs := by
  unfold fenced? at h
  split at h
  · cases h
  · next before inside hopen =>
    obtain ⟨⟨block, after⟩, hclose, rfl⟩ := Option.map_eq_some_iff.1 h
    have hblock : block <:+: cs := by
      rw [eq_of_splitAtMark? hopen, eq_of_splitAtMark? hclose]
      exact ⟨before ++ openFence, closeFence ++ after, by simp⟩
    exact ((dropLastLineEnd_isPrefix _).isInfix.trans (dropFirstLineEnd_suffix block).isInfix).trans
      hblock

theorem infix_of_braced? {cs span : List Char} (h : braced? cs = some span) : span <:+: cs := by
  unfold braced? at h
  dsimp only at h
  split at h
  · cases h
  · cases h
    refine List.IsInfix.trans (List.IsPrefix.isInfix ?_) (List.dropWhile_suffix (· != '{')).isInfix
    rw [← List.reverse_suffix, List.reverse_reverse]
    exact List.dropWhile_suffix _

/-- **What is located stands in the reply.** -/
theorem infix_of_locate? {cs span : List Char} (h : locate? cs = some span) : span <:+: cs := by
  unfold locate? at h
  split at h
  · next hfenced =>
    cases h
    exact infix_of_fenced? hfenced
  · exact infix_of_braced? h

/-! ## An object among prose -/

theorem fenced?_eq_none {cs : List Char} (h : ¬ openFence <:+: cs) : fenced? cs = none := by
  unfold fenced?
  rw [splitAtMark?_eq_none_iff.2 h]

theorem braced?_among_prose {before body after : List Char} (hbefore : '{' ∉ before)
    (hafter : '}' ∉ after) :
    braced? (before ++ ('{' :: body ++ ['}']) ++ after) = some ('{' :: body ++ ['}']) := by
  have hopen : (before ++ ('{' :: body ++ ['}']) ++ after).dropWhile (· != '{') =
      '{' :: body ++ ['}'] ++ after := by
    rw [List.append_assoc, List.dropWhile_append_of_pos]
    · simp
    · intro c hc
      simpa using fun heq : c = '{' => hbefore (heq ▸ hc)
  have hclose : ('{' :: body ++ ['}'] ++ after).reverse.dropWhile (· != '}') =
      ('{' :: body ++ ['}']).reverse := by
    rw [List.reverse_append, List.dropWhile_append_of_pos]
    · simp
    · intro c hc
      simpa using fun heq : c = '}' => hafter (heq ▸ List.mem_reverse.1 hc)
  unfold braced?
  dsimp only
  rw [hopen, hclose, List.reverse_reverse]
  rfl

theorem braced?_eq_none {before rest : List Char} (hbefore : '{' ∉ before) (hrest : '}' ∉ rest) :
    braced? (before ++ rest) = none := by
  have hopen : (before ++ rest).dropWhile (· != '{') = rest.dropWhile (· != '{') := by
    refine List.dropWhile_append_of_pos fun c hc => ?_
    simpa using fun heq : c = '{' => hbefore (heq ▸ hc)
  have hclose : (rest.dropWhile (· != '{')).reverse.dropWhile (· != '}') = [] := by
    rw [List.dropWhile_eq_nil_iff]
    intro c hc
    have hmem := (List.dropWhile_suffix (· != '{')).subset (List.mem_reverse.1 hc)
    simpa using fun heq : c = '}' => hrest (heq ▸ hmem)
  unfold braced?
  dsimp only
  rw [hopen, hclose]
  rfl

/-- A text has a first opening brace and a last closing one after it, or no closing
    brace follows an opening one. -/
theorem brace_cases (cs : List Char) :
    (∃ before body after, cs = before ++ ('{' :: body ++ ['}']) ++ after ∧ '{' ∉ before ∧
      '}' ∉ after) ∨
      ∃ before rest, cs = before ++ rest ∧ '{' ∉ before ∧ '}' ∉ rest := by
  by_cases hopen : '{' ∈ cs
  · obtain ⟨before, rest, rfl, hbefore⟩ := List.eq_append_cons_of_mem hopen
    by_cases hclose : '}' ∈ rest.reverse
    · obtain ⟨back, front, hrest, hback⟩ := List.eq_append_cons_of_mem hclose
      refine Or.inl ⟨before, front.reverse, back.reverse, ?_, hbefore, by simpa using hback⟩
      rw [← List.reverse_reverse rest, hrest]
      simp
    · exact Or.inr ⟨before, '{' :: rest, rfl, hbefore, by simpa using hclose⟩
  · exact Or.inr ⟨cs, [], (List.append_nil cs).symm, hopen, List.not_mem_nil⟩

theorem renderChars_object (members : List (String × Json)) :
    ∃ body, Json.renderChars (.object members) = '{' :: body ++ ['}'] := by
  rcases members with _ | ⟨⟨k, v⟩, ms⟩
  · exact ⟨[], by rw [Json.renderChars]; rfl⟩
  · exact ⟨_, by rw [Json.renderChars]; rfl⟩

/-- **An object among prose is located**, where the reply has no mark of a block. -/
theorem locate?_among_prose (members : List (String × Json)) {before after : List Char}
    (hbefore : '{' ∉ before) (hafter : '}' ∉ after)
    (hmark : ¬ openFence <:+: before ++ Json.renderChars (.object members) ++ after) :
    locate? (before ++ Json.renderChars (.object members) ++ after) =
      some (Json.renderChars (.object members)) := by
  obtain ⟨body, hbody⟩ := renderChars_object members
  unfold locate?
  rw [fenced?_eq_none hmark, hbody]
  exact braced?_among_prose hbefore hafter

end SpanQuest.Reply
