/-
  What is located in a reply, by indices.

  A block is there if the mark that closes one stands somewhere after a mark that
  opens one.  Then the first mark that opens a block and the first mark that
  closes one after it are its ends, and what is located stands between them,
  without the line ends next to them.  Without a block, what is located stands
  from the first opening brace to the last closing one, if this is after that;
  otherwise nothing is.

  * `hasBlock_iff`, `hasBraces_iff`: when there is a block, and when braces;
  * `fenced?_between`, `braced?_between`: what stands in them;
  * `locate_outcomes`: what is located in a reply.
-/
import SpanQuest.Proofs.Query.Extraction
import SpanQuest.Proofs.Query.Pattern

namespace SpanQuest.Reply

variable {mark cs : List Char}

/-! ## Indices -/

/-- The mark stands in the text from the index `i` on. -/
def StandsAt (mark cs : List Char) (i : Nat) : Prop :=
  mark <+: cs.drop i

/-- `i` is the first index, from `start` on, at which the mark stands. -/
structure FirstAt (mark cs : List Char) (start i : Nat) : Prop where
  start_le : start ≤ i
  stands : StandsAt mark cs i
  first : ∀ k, start ≤ k → k < i → ¬ StandsAt mark cs k

/-- `i` is the last index at which the mark stands. -/
structure LastAt (mark cs : List Char) (i : Nat) : Prop where
  stands : StandsAt mark cs i
  last : ∀ k, i < k → ¬ StandsAt mark cs k

theorem standsAt_drop (start i : Nat) :
    StandsAt mark (cs.drop start) i ↔ StandsAt mark cs (start + i) := by
  rw [StandsAt, StandsAt, List.drop_drop]

theorem standsAt_singleton {c : Char} {i : Nat} : StandsAt [c] cs i ↔ cs[i]? = some c := by
  rw [← List.head?_drop, List.head?_eq_some_iff, StandsAt]
  exact ⟨fun ⟨rest, h⟩ => ⟨rest, h.symm⟩, fun ⟨rest, h⟩ => ⟨rest, h.symm⟩⟩

theorem StandsAt.infix {i : Nat} (h : StandsAt mark cs i) : mark <:+: cs :=
  h.isInfix.trans (List.drop_suffix i cs).isInfix

theorem standsAt_append (before after : List Char) :
    StandsAt mark (before ++ mark ++ after) before.length := by
  rw [StandsAt, List.append_assoc, List.drop_left]
  exact List.prefix_append mark after

theorem FirstAt.of_drop {start i : Nat} (h : FirstAt mark (cs.drop start) 0 i) :
    FirstAt mark cs start (start + i) where
  start_le := Nat.le_add_right start i
  stands := (standsAt_drop start i).1 h.stands
  first k hk hki hstands := by
    obtain ⟨k, rfl⟩ := Nat.exists_eq_add_of_le hk
    exact h.first k (Nat.zero_le k) (Nat.lt_of_add_lt_add_left hki) ((standsAt_drop start k).2 hstands)

/-- **A text is split where a mark first stands.** -/
theorem firstAt_of_splitAtMark? {before after : List Char}
    (h : splitAtMark? mark cs = some (before, after)) : FirstAt mark cs 0 before.length where
  start_le := Nat.zero_le _
  stands := by
    rw [eq_of_splitAtMark? h]
    exact standsAt_append before after
  first k _ hk := by
    induction cs generalizing before k with
    | nil =>
      obtain ⟨rest, -, heq⟩ := Option.map_eq_some_iff.1 h
      cases heq
      cases hk
    | cons c cs ih =>
      rw [splitAtMark?] at h
      split at h
      · cases h
        cases hk
      · next hstrip =>
        obtain ⟨⟨front, back⟩, hsplit, heq⟩ := Option.map_eq_some_iff.1 h
        cases heq
        rcases k with _ | k
        · exact stripMark?_eq_none_iff.1 hstrip
        · exact ih hsplit k (Nat.zero_le k) (Nat.lt_of_succ_lt_succ hk)

theorem FirstAt.not_infix_extract {start i : Nat} (h : FirstAt mark cs start i) (hmark : mark ≠ []) :
    ¬ mark <:+: cs.extract start i := by
  rintro ⟨before, after, hbetween⟩
  rw [List.extract_eq_take_drop] at hbetween
  have hshorter : start + before.length < i := by
    have hlength := congrArg List.length hbetween
    have hpos := List.length_pos_iff.2 hmark
    simp only [List.length_append, List.length_take] at hlength
    omega
  refine h.first _ (Nat.le_add_right start before.length) hshorter ?_
  obtain ⟨rest, hrest⟩ := List.take_prefix (i - start) (cs.drop start)
  rw [← standsAt_drop, ← hrest, ← hbetween, List.append_assoc]
  exact standsAt_append before (after ++ rest)

/-! ## Blocks -/

/-- The mark that closes a block stands somewhere after one that opens a block. -/
def HasBlock (cs : List Char) : Prop :=
  ∃ i j, StandsAt openFence cs i ∧ i + openFence.length ≤ j ∧ StandsAt closeFence cs j

/-- `span` is the block without a line end at its front, and then without one at its
    end. -/
def WithoutLineEnds (block span : List Char) : Prop :=
  ∃ inner, (block = '\n' :: inner ∨ block = inner ∧ block.head? ≠ some '\n') ∧
    (inner = span ++ ['\n'] ∨ inner = span ∧ inner.getLast? ≠ some '\n')

theorem dropFirstLineEnd_cases (cs : List Char) :
    cs = '\n' :: dropFirstLineEnd cs ∨ cs = dropFirstLineEnd cs ∧ cs.head? ≠ some '\n' := by
  unfold dropFirstLineEnd
  split
  · exact Or.inl rfl
  · next hline =>
    refine Or.inr ⟨rfl, fun h => ?_⟩
    obtain ⟨rest, hrest⟩ := List.head?_eq_some_iff.1 h
    exact hline rest hrest

theorem withoutLineEnds_dropLineEnds (block : List Char) :
    WithoutLineEnds block (dropLastLineEnd (dropFirstLineEnd block)) := by
  refine ⟨dropFirstLineEnd block, dropFirstLineEnd_cases block, ?_⟩
  generalize dropFirstLineEnd block = inner
  rw [dropLastLineEnd, ← List.head?_reverse]
  rcases dropFirstLineEnd_cases inner.reverse with hline | ⟨hsame, hline⟩
  · left
    rw [← List.reverse_cons, ← hline, List.reverse_reverse]
  · right
    rw [← hsame, List.reverse_reverse]
    exact ⟨rfl, hline⟩

theorem drop_of_splitAtMark? {before after : List Char}
    (h : splitAtMark? mark cs = some (before, after)) :
    cs.drop (before.length + mark.length) = after := by
  rw [eq_of_splitAtMark? h, ← List.length_append, List.drop_left]

/-- **The ends of a block are the first marks**, the one that opens it and the one
    that closes it. -/
theorem fenced?_between {before inside block after : List Char}
    (hopen : splitAtMark? openFence cs = some (before, inside))
    (hclose : splitAtMark? closeFence inside = some (block, after)) :
    FirstAt openFence cs 0 before.length ∧
      FirstAt closeFence cs (before.length + openFence.length)
        (before.length + openFence.length + block.length) ∧
      cs.extract (before.length + openFence.length)
        (before.length + openFence.length + block.length) = block ∧
      fenced? cs = some (dropLastLineEnd (dropFirstLineEnd block)) := by
  have hinside := drop_of_splitAtMark? hopen
  refine ⟨firstAt_of_splitAtMark? hopen, FirstAt.of_drop ?_, ?_, ?_⟩
  · rw [hinside]
    exact firstAt_of_splitAtMark? hclose
  · rw [List.extract_eq_take_drop, hinside, Nat.add_sub_cancel_left, eq_of_splitAtMark? hclose,
      List.append_assoc, List.take_left]
  · simp only [fenced?, hopen, hclose, Option.map_some]

theorem HasBlock.split (h : HasBlock cs) : ∃ before inside block after,
    splitAtMark? openFence cs = some (before, inside) ∧
      splitAtMark? closeFence inside = some (block, after) := by
  obtain ⟨i, j, hi, hij, hj⟩ := h
  rcases hopen : splitAtMark? openFence cs with _ | ⟨before, inside⟩
  · exact absurd hi.infix (splitAtMark?_eq_none_iff.1 hopen)
  rcases hclose : splitAtMark? closeFence inside with _ | ⟨block, after⟩
  · -- the first mark that opens a block is not after the one that is closed
    have hfirst : before.length ≤ i := Nat.not_lt.1 fun hlt =>
      (firstAt_of_splitAtMark? hopen).first i (Nat.zero_le i) hlt hi
    obtain ⟨k, rfl⟩ := Nat.exists_eq_add_of_le ((Nat.add_le_add_right hfirst _).trans hij)
    rw [← standsAt_drop, drop_of_splitAtMark? hopen] at hj
    exact absurd hj.infix (splitAtMark?_eq_none_iff.1 hclose)
  · exact ⟨before, inside, block, after, rfl, hclose⟩

/-- **There is a block exactly if one is found.** -/
theorem hasBlock_iff : HasBlock cs ↔ ∃ span, fenced? cs = some span := by
  constructor
  · intro h
    obtain ⟨before, inside, block, after, hopen, hclose⟩ := h.split
    exact ⟨_, (fenced?_between hopen hclose).2.2.2⟩
  · rintro ⟨span, h⟩
    unfold fenced? at h
    split at h
    · cases h
    · next before inside hopen =>
      obtain ⟨⟨block, after⟩, hclose, -⟩ := Option.map_eq_some_iff.1 h
      obtain ⟨hfirst, hfirst', -⟩ := fenced?_between hopen hclose
      exact ⟨_, _, hfirst.stands, hfirst'.start_le, hfirst'.stands⟩

/-! ## Braces -/

/-- A closing brace stands after an opening one. -/
def HasBraces (cs : List Char) : Prop :=
  ∃ i j, i < j ∧ StandsAt ['{'] cs i ∧ StandsAt ['}'] cs j

/-- **The ends are the first opening brace and the last closing one.** -/
theorem braced?_between {before body after : List Char} (hbefore : '{' ∉ before)
    (hafter : '}' ∉ after) (hcs : cs = before ++ ('{' :: body ++ ['}']) ++ after) :
    FirstAt ['{'] cs 0 before.length ∧ LastAt ['}'] cs (before.length + body.length + 1) ∧
      cs.extract before.length (before.length + body.length + 2) = '{' :: body ++ ['}'] := by
  have hopen : cs = before ++ ['{'] ++ (body ++ '}' :: after) := by simp [hcs]
  have hclose : cs = before ++ '{' :: body ++ ['}'] ++ after := by simp [hcs]
  have hlength : (before ++ '{' :: body).length = before.length + body.length + 1 := by
    simp only [List.length_append, List.length_cons]
    omega
  refine ⟨⟨Nat.zero_le _, ?_, ?_⟩, ⟨?_, ?_⟩, ?_⟩
  · rw [hopen]
    exact standsAt_append before _
  · intro k _ hk hstands
    rw [standsAt_singleton, hopen, List.append_assoc, List.getElem?_append_left hk] at hstands
    exact hbefore (List.mem_of_getElem? hstands)
  · rw [hclose, ← hlength]
    exact standsAt_append _ after
  · intro k hk hstands
    rw [standsAt_singleton, hclose, List.getElem?_append_right] at hstands
    · exact hafter (List.mem_of_getElem? hstands)
    · rw [List.length_append, hlength]
      exact hk
  · rw [List.extract_eq_take_drop, hcs, List.append_assoc, List.drop_left, List.take_left']
    simp only [List.length_append, List.length_cons, List.length_nil]
    omega

theorem not_hasBraces {before rest : List Char} (hbefore : '{' ∉ before) (hrest : '}' ∉ rest) :
    ¬ HasBraces (before ++ rest) := by
  rintro ⟨i, j, hij, hi, hj⟩
  rw [standsAt_singleton] at hi hj
  rcases Nat.lt_or_ge i before.length with hlt | hge
  · rw [List.getElem?_append_left hlt] at hi
    exact hbefore (List.mem_of_getElem? hi)
  · rw [List.getElem?_append_right (hge.trans hij.le)] at hj
    exact hrest (List.mem_of_getElem? hj)

/-- **There are braces exactly if they are found.** -/
theorem hasBraces_iff : HasBraces cs ↔ ∃ span, braced? cs = some span := by
  rcases brace_cases cs with ⟨before, body, after, hcs, hbefore, hafter⟩ |
    ⟨before, rest, rfl, hbefore, hrest⟩
  · obtain ⟨hfirst, hlast, -⟩ := braced?_between hbefore hafter hcs
    rw [hcs, braced?_among_prose hbefore hafter, ← hcs]
    have hlt : before.length < before.length + body.length + 1 := by omega
    exact ⟨fun _ => ⟨_, rfl⟩, fun _ => ⟨_, _, hlt, hfirst.stands, hlast.stands⟩⟩
  · rw [braced?_eq_none hbefore hrest]
    exact ⟨fun h => absurd h (not_hasBraces hbefore hrest), fun ⟨_, h⟩ => by cases h⟩

instance (cs : List Char) : Decidable (HasBlock cs) :=
  decidable_of_iff ((fenced? cs).isSome = true) (Option.isSome_iff_exists.trans hasBlock_iff.symm)

instance (cs : List Char) : Decidable (HasBraces cs) :=
  decidable_of_iff ((braced? cs).isSome = true) (Option.isSome_iff_exists.trans hasBraces_iff.symm)

/-! ## Replies -/

theorem fenced?_of_not_hasBlock (h : ¬ HasBlock cs) : fenced? cs = none :=
  Option.eq_none_iff_forall_ne_some.2 fun span hspan => h (hasBlock_iff.2 ⟨span, hspan⟩)

theorem braced?_of_not_hasBraces (h : ¬ HasBraces cs) : braced? cs = none :=
  Option.eq_none_iff_forall_ne_some.2 fun span hspan => h (hasBraces_iff.2 ⟨span, hspan⟩)

section

variable {reply : String}

/-- **In a reply with a block**, what stands in the first one that is closed. -/
theorem locate_of_hasBlock (h : HasBlock reply.toList) : ∃ i j span,
    FirstAt openFence reply.toList 0 i ∧
    FirstAt closeFence reply.toList (i + openFence.length) j ∧
    WithoutLineEnds (reply.toList.extract (i + openFence.length) j) span ∧
    ¬ closeFence <:+: span ∧ locate reply = .ok (String.ofList span) := by
  obtain ⟨before, inside, block, after, hopen, hclose⟩ := h.split
  obtain ⟨hfirst, hfirst', hblock, hfenced⟩ := fenced?_between hopen hclose
  refine ⟨_, _, dropLastLineEnd (dropFirstLineEnd block), hfirst, hfirst', ?_, fun hmark => ?_,
    locate_of_some ?_⟩
  · rw [hblock]
    exact withoutLineEnds_dropLineEnds block
  · refine hfirst'.not_infix_extract (by decide) ?_
    rw [hblock]
    exact hmark.trans ((dropLastLineEnd_isPrefix _).isInfix.trans
      (dropFirstLineEnd_suffix block).isInfix)
  · rw [locate?, hfenced]

/-- **In a reply without a block**, what stands from the first opening brace to the
    last closing one. -/
theorem locate_of_hasBraces (hblock : ¬ HasBlock reply.toList) (h : HasBraces reply.toList) :
    ∃ i j, FirstAt ['{'] reply.toList 0 i ∧ LastAt ['}'] reply.toList j ∧ i < j ∧
      locate reply = .ok (String.ofList (reply.toList.extract i (j + 1))) := by
  rcases brace_cases reply.toList with ⟨before, body, after, hcs, hbefore, hafter⟩ |
    ⟨before, rest, hcs, hbefore, hrest⟩
  · obtain ⟨hfirst, hlast, hbetween⟩ := braced?_between hbefore hafter hcs
    refine ⟨_, _, hfirst, hlast, by omega, ?_⟩
    rw [hbetween]
    refine locate_of_some ?_
    rw [locate?, fenced?_of_not_hasBlock hblock, hcs]
    exact braced?_among_prose hbefore hafter
  · rw [hcs] at h
    exact absurd h (not_hasBraces hbefore hrest)

/-- **In a reply with neither**, nothing. -/
theorem locate_of_neither (hblock : ¬ HasBlock reply.toList) (hbraces : ¬ HasBraces reply.toList) :
    ∃ f, locate reply = .error f ∧ f.kind = .unparsable := by
  rw [locate, locate?, fenced?_of_not_hasBlock hblock, braced?_of_not_hasBraces hbraces]
  exact ⟨_, rfl, rfl⟩

end

/-- **What is located in a reply.**  If it has a block, this is what stands between
    the first mark that opens one and the first mark that closes one after it,
    without the line ends next to them; else what stands from the first opening brace
    to the last closing one; and if there are no such braces the reply is
    unparsable.  So it is a part of the reply, and what the search for a block finds
    in it, or else the search for braces. -/
theorem locate_outcomes (reply : String) :
    (HasBlock reply.toList → ∃ i j span,
      FirstAt openFence reply.toList 0 i ∧
      FirstAt closeFence reply.toList (i + openFence.length) j ∧
      WithoutLineEnds (reply.toList.extract (i + openFence.length) j) span ∧
      ¬ closeFence <:+: span ∧ locate reply = .ok (String.ofList span)) ∧
    (¬ HasBlock reply.toList → HasBraces reply.toList → ∃ i j,
      FirstAt ['{'] reply.toList 0 i ∧ LastAt ['}'] reply.toList j ∧ i < j ∧
      locate reply = .ok (String.ofList (reply.toList.extract i (j + 1)))) ∧
    (¬ HasBlock reply.toList → ¬ HasBraces reply.toList →
      ∃ f, locate reply = .error f ∧ f.kind = .unparsable) ∧
    ((∃ span, locate reply = .ok span) ↔ HasBlock reply.toList ∨ HasBraces reply.toList) ∧
    (∀ span, locate reply = .ok span → span.toList <:+: reply.toList) ∧
    locate? reply.toList =
      (search? blockPattern reply.toList).or (search? bracePattern reply.toList) := by
  refine ⟨locate_of_hasBlock, locate_of_hasBraces, locate_of_neither, ⟨?_, ?_⟩,
    fun span => infix_of_locate, locate?_eq_search? reply.toList⟩
  · rintro ⟨span, hspan⟩
    by_contra hneither
    obtain ⟨hblock, hbraces⟩ := not_or.1 hneither
    obtain ⟨f, hf, -⟩ := locate_of_neither hblock hbraces
    cases hspan.symm.trans hf
  · intro heither
    by_cases hblock : HasBlock reply.toList
    · obtain ⟨i, j, span, -, -, -, -, hspan⟩ := locate_of_hasBlock hblock
      exact ⟨_, hspan⟩
    · obtain ⟨i, j, -, -, -, hspan⟩ := locate_of_hasBraces hblock (heither.resolve_left hblock)
      exact ⟨_, hspan⟩

/-- Two line ends in a block before another one, a block that is never closed among
    braces, and braces the other way round. -/
theorem locate_outcomes_sample :
    (HasBlock "a```json\n\n```json\x7b\x7d```".toList ∧ ∃ i j span,
      FirstAt openFence "a```json\n\n```json\x7b\x7d```".toList 0 i ∧
      FirstAt closeFence "a```json\n\n```json\x7b\x7d```".toList (i + openFence.length) j ∧
      WithoutLineEnds
        ("a```json\n\n```json\x7b\x7d```".toList.extract (i + openFence.length) j) span ∧
      ¬ closeFence <:+: span ∧
      locate "a```json\n\n```json\x7b\x7d```" = .ok (String.ofList span)) ∧
    (¬ HasBlock "\x7dx\x7b```json\x7dy\x7b".toList ∧ HasBraces "\x7dx\x7b```json\x7dy\x7b".toList ∧
      ∃ i j, FirstAt ['{'] "\x7dx\x7b```json\x7dy\x7b".toList 0 i ∧
        LastAt ['}'] "\x7dx\x7b```json\x7dy\x7b".toList j ∧ i < j ∧
        locate "\x7dx\x7b```json\x7dy\x7b" =
          .ok (String.ofList ("\x7dx\x7b```json\x7dy\x7b".toList.extract i (j + 1)))) ∧
    ¬ HasBlock "\x7d\x7b".toList ∧ ¬ HasBraces "\x7d\x7b".toList ∧
      ∃ f, locate "\x7d\x7b" = .error f ∧ f.kind = .unparsable := by
  have hblock : HasBlock "a```json\n\n```json\x7b\x7d```".toList := by decide
  have hunclosed : ¬ HasBlock "\x7dx\x7b```json\x7dy\x7b".toList := by decide
  have hbraces : HasBraces "\x7dx\x7b```json\x7dy\x7b".toList := by decide
  have hplain : ¬ HasBlock "\x7d\x7b".toList := by decide
  have hwrong : ¬ HasBraces "\x7d\x7b".toList := by decide
  exact ⟨⟨hblock, (locate_outcomes _).1 hblock⟩,
    ⟨hunclosed, hbraces, (locate_outcomes _).2.1 hunclosed hbraces⟩,
    hplain, hwrong, (locate_outcomes _).2.2.1 hplain hwrong⟩

end SpanQuest.Reply
