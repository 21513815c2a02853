/-
  Objects in a block, and bare objects.

  A reply holds an object in a block of JSON, or bare among prose.  Both are
  read alike as long as the mark that closes a block does not stand in the
  object.  The first such mark closes the block, also where it stands in a text
  of the object: then the object is cut off, and what is left is malformed.

  * `locate?_fencedReply`, `locate?_bareReply`: the object is located;
  * `malformed_fencedReply`: an object with the mark in it is cut off;
  * `queryOf_fenced_bare`: where the two replies agree, and where they part.
-/
import SpanQuest.Proofs.Json.Cut
import SpanQuest.Proofs.Query.Extraction

namespace SpanQuest.Reply

/-! ## Replies with an object -/

/-- Prose has no braces and no backticks. -/
def IsProse (s : String) : Prop :=
  ∀ c ∈ s.toList, c ≠ '{' ∧ c ≠ '}' ∧ c ≠ '`'

instance (s : String) : Decidable (IsProse s) :=
  List.decidableBAll (fun c => c ≠ '{' ∧ c ≠ '}' ∧ c ≠ '`') s.toList

/-- The text begins with an opening brace and ends with a closing one. -/
def Braced (s : String) : Prop :=
  ∃ body, s.toList = '{' :: body ++ ['}']

/-- The object in a block of JSON, the marks on lines of their own. -/
def fencedReply (before object after : String) : String :=
  before ++ "```json\n" ++ object ++ "\n```" ++ after

/-- The object among the prose. -/
def bareReply (before object after : String) : String :=
  before ++ object ++ after

theorem toList_fencedReply (before object after : String) :
    (fencedReply before object after).toList =
      before.toList ++ openFence ++
        ('\n' :: (object.toList ++ '\n' :: (closeFence ++ after.toList))) := by
  have hopen : "```json\n".toList = openFence ++ ['\n'] := by decide
  have hclose : "\n```".toList = '\n' :: closeFence := by decide
  simp only [fencedReply, String.toList_append, hopen, hclose, List.append_assoc,
    List.cons_append, List.nil_append]

theorem toList_bareReply (before object after : String) :
    (bareReply before object after).toList = before.toList ++ object.toList ++ after.toList := by
  rw [bareReply, String.toList_append, String.toList_append]

theorem IsProse.not_infix {s : String} (h : IsProse s) {mark : List Char} (hmark : '`' ∈ mark) :
    ¬ mark <:+: s.toList := by
  intro hoccurs
  exact (h _ (hoccurs.subset hmark)).2.2 rfl

/-! ## Where the object stands -/

section

variable {before object after : String}

theorem infix_of_bareReply (hbefore : IsProse before) (hafter : IsProse after)
    (hbraced : Braced object) {mark : List Char} (htick : '`' ∈ mark) (hopen : '{' ∉ mark)
    (hclose : '}' ∉ mark) (h : mark <:+: (bareReply before object after).toList) :
    mark <:+: object.toList := by
  obtain ⟨body, hbody⟩ := hbraced
  have hsplit : (bareReply before object after).toList =
      before.toList ++ '{' :: (body ++ '}' :: after.toList) := by
    rw [toList_bareReply, hbody]
    simp
  rw [hsplit] at h
  rcases infix_append_cons hopen h with hleft | hrest
  · exact absurd hleft (hbefore.not_infix htick)
  rcases infix_append_cons hclose hrest with hmiddle | hright
  · rw [hbody]
    exact hmiddle.trans ⟨['{'], ['}'], rfl⟩
  · exact absurd hright (hafter.not_infix htick)

/-- **A bare object is located**, unless the mark that opens a block is in it. -/
theorem locate?_bareReply (hbefore : IsProse before) (hafter : IsProse after)
    (hbraced : Braced object) (hmark : ¬ openFence <:+: object.toList) :
    locate? (bareReply before object after).toList = some object.toList := by
  have hnone : ¬ openFence <:+: (bareReply before object after).toList := fun h =>
    hmark (infix_of_bareReply hbefore hafter hbraced (by decide) (by decide) (by decide) h)
  obtain ⟨body, hbody⟩ := hbraced
  unfold locate?
  rw [fenced?_eq_none hnone, toList_bareReply, hbody]
  exact braced?_among_prose (fun h => (hbefore _ h).1 rfl) (fun h => (hafter _ h).2.1 rfl)

/-- What follows the first mark that opens a block is the object. -/
theorem splitAtMark?_fencedReply (hbefore : IsProse before) :
    splitAtMark? openFence (fencedReply before object after).toList =
      some (before.toList,
        '\n' :: (object.toList ++ '\n' :: (closeFence ++ after.toList))) := by
  rw [toList_fencedReply]
  exact splitAtMark?_cons_append (fun h => (hbefore _ h).2.2 rfl) _ _

theorem dropLastLineEnd_append_lineEnd (cs : List Char) :
    dropLastLineEnd (cs ++ ['\n']) = cs := by
  rw [dropLastLineEnd, List.reverse_append]
  exact List.reverse_reverse cs

/-- **An object in a block is located**, unless the mark that closes a block is in
    it. -/
theorem locate?_fencedReply (hbefore : IsProse before)
    (hmark : ¬ closeFence <:+: object.toList) :
    locate? (fencedReply before object after).toList = some object.toList := by
  have hfront : ¬ closeFence <:+: '\n' :: object.toList := by
    rw [List.infix_cons_iff, not_or]
    refine ⟨fun h => ?_, hmark⟩
    exact absurd (List.cons_prefix_cons.1 h).1 (by decide)
  have hclosed := splitAtMark?_append_cons (x := '\n') (by decide) hfront after.toList
  rw [List.cons_append] at hclosed
  unfold locate? fenced?
  simp only [splitAtMark?_fencedReply hbefore, hclosed, Option.map_some, List.cons_append,
    dropFirstLineEnd, dropLastLineEnd_append_lineEnd]

/-! ## An object that is cut off -/

theorem eq_dropLastLineEnd_append (cs : List Char) :
    cs = dropLastLineEnd cs ∨ cs = dropLastLineEnd cs ++ ['\n'] := by
  unfold dropLastLineEnd dropFirstLineEnd
  split
  · next rest hrest =>
    right
    rw [← List.reverse_cons, ← hrest, List.reverse_reverse]
  · left
    rw [List.reverse_reverse]

/-- **An object with the mark that closes a block is cut off there**, and what is
    left is malformed. -/
theorem malformed_fencedReply (hbefore : IsProse before)
    {v : Json} (hread : Json.read object = .ok v) (hmark : closeFence <:+: object.toList) :
    Malformed (fencedReply before object after) := by
  rcases hsplit : splitAtMark? closeFence object.toList with _ | ⟨front, back⟩
  · exact absurd hmark (splitAtMark?_eq_none_iff.1 hsplit)
  have hobject := eq_of_splitAtMark? hsplit
  -- the block is closed where the mark is in the object
  have hlocated : locate? (fencedReply before object after).toList =
      some (dropLastLineEnd front) := by
    have hline : stripMark? closeFence ('\n' :: object.toList ++ '\n' :: (closeFence ++ after.toList))
        = none := by
      rw [stripMark?_eq_none_iff]
      exact fun h => absurd (List.cons_prefix_cons.1 h).1 (by decide)
    have hclosed := splitAtMark?_append_right ('\n' :: (closeFence ++ after.toList)) hsplit
    unfold locate? fenced?
    rw [splitAtMark?_fencedReply hbefore]
    dsimp only
    rw [splitAtMark?]
    rw [List.cons_append] at hline
    rw [hline, hclosed]
    rfl
  -- what is cut off begins with a line end or with the mark
  obtain ⟨more, hmore, hsevers, hink⟩ : ∃ more, object.toList = dropLastLineEnd front ++ more ∧
      Json.Severs more ∧ Json.skipGap more ≠ [] := by
    rcases eq_dropLastLineEnd_append front with hfront | hfront
    · refine ⟨closeFence ++ back, ?_, ⟨'`', _, rfl, by decide⟩, ?_⟩
      · rw [← hfront, hobject, List.append_assoc]
      · exact List.cons_ne_nil '`' _
    · refine ⟨'\n' :: (closeFence ++ back), ?_, ⟨'\n', _, rfl, by decide⟩, ?_⟩
      · rw [hobject]
        conv_lhs => rw [hfront]
        simp
      · exact List.cons_ne_nil '`' _
  rw [← String.ofList_toList (s := object), hmore] at hread
  obtain ⟨complaint, place, hcut⟩ := Json.read_cut hsevers hink hread
  exact ⟨_, complaint, place, hlocated, hcut⟩

end

/-! ## The two replies -/

theorem queryOf_eq_ok_congr {reply reply' : String}
    (h : locate? reply.toList = locate? reply'.toList) (question : String) (query : Query) :
    queryOf reply question = .ok query ↔ queryOf reply' question = .ok query := by
  unfold queryOf objectOf locate
  rw [h]
  rcases locate? reply'.toList with _ | span
  · simp [Except.map]
  dsimp only
  rcases Json.read (String.ofList span) with (⟨c, p⟩ | count) | v
  · simp [Except.map]
  · simp [Except.map]
  · cases v <;> simp [Except.map]

/-- **An object in a block and the same object bare among prose** give the same
    query, as long as the mark that closes a block is not in the object.  With the
    mark in it there is no query of the block, and one of the bare object. -/
theorem queryOf_fenced_bare {before object after : String} (hbefore : IsProse before)
    (hafter : IsProse after) (hbraced : Braced object) (question : String) :
    (¬ closeFence <:+: object.toList →
      (∀ query, queryOf (fencedReply before object after) question = .ok query ↔
        queryOf (bareReply before object after) question = .ok query) ∧
      ∀ members, Json.read object = .ok (.object members) →
        objectOf (fencedReply before object after) = .ok (.object members) ∧
        objectOf (bareReply before object after) = .ok (.object members) ∧
        ∃ query, queryOf (fencedReply before object after) question = .ok query ∧
          queryOf (bareReply before object after) question = .ok query) ∧
    (closeFence <:+: object.toList → ∀ members, Json.read object = .ok (.object members) →
      (∃ f : Failure, queryOf (fencedReply before object after) question = .error (.failure f) ∧
        f.kind = .unparsable) ∧
      (¬ openFence <:+: object.toList →
        objectOf (bareReply before object after) = .ok (.object members) ∧
        ∃ query, queryOf (bareReply before object after) question = .ok query)) := by
  have hbare : ∀ members, Json.read object = .ok (.object members) →
      ¬ openFence <:+: object.toList →
      Holds (bareReply before object after) (.object members) := by
    intro members hread hopen
    refine ⟨object.toList, locate?_bareReply hbefore hafter hbraced hopen, ?_⟩
    rw [String.ofList_toList]
    exact hread
  constructor
  · intro hmark
    have hopen : ¬ openFence <:+: object.toList := fun h =>
      hmark (List.IsInfix.trans ⟨[], ['j', 's', 'o', 'n'], rfl⟩ h)
    have hspan : locate? (fencedReply before object after).toList = some object.toList :=
      locate?_fencedReply hbefore hmark
    have halike := queryOf_eq_ok_congr
      (hspan.trans (locate?_bareReply hbefore hafter hbraced hopen).symm) question
    refine ⟨halike, fun members hread => ?_⟩
    have hfenced : Holds (fencedReply before object after) (.object members) := by
      refine ⟨object.toList, hspan, ?_⟩
      rw [String.ofList_toList]
      exact hread
    obtain ⟨query, hquery, -⟩ := queryOf_of_holds hfenced question
    exact ⟨objectOf_of_holds hfenced, objectOf_of_holds (hbare members hread hopen),
      query, hquery, (halike query).1 hquery⟩
  · intro hmark members hread
    constructor
    · exact queryOf_of_holdsNoObject (Or.inr (Or.inl (malformed_fencedReply hbefore hread hmark)))
        question
    · intro hopen
      have hholds := hbare members hread hopen
      obtain ⟨query, hquery, -⟩ := queryOf_of_holds hholds question
      exact ⟨objectOf_of_holds hholds, query, hquery⟩

/-! ## One backtick and three -/

/-- An object whose one member names the service. -/
def serviceObject (name : String) : Json :=
  .object [("service", .text name)]

theorem braced_render (members : List (String × Json)) :
    Braced (Json.object members).render := by
  obtain ⟨body, hbody⟩ := renderChars_object members
  exact ⟨body, by rw [Json.render, String.toList_ofList, hbody]⟩

/-- Single backticks and escapes in a text do no harm. -/
theorem queryOf_fenced_bare_ticks :
    IsProse "Here it is:\n" ∧ IsProse "\nDone." ∧
      Braced (serviceObject "a`b\n\x7d``").render ∧
      ∃ query,
        queryOf (fencedReply "Here it is:\n" (serviceObject "a`b\n\x7d``").render "\nDone.") "q" =
            .ok query ∧
          queryOf (bareReply "Here it is:\n" (serviceObject "a`b\n\x7d``").render "\nDone.") "q" =
            .ok query := by
  have hbefore : IsProse "Here it is:\n" := by decide
  have hafter : IsProse "\nDone." := by decide
  have hbraced : Braced (serviceObject "a`b\n\x7d``").render := braced_render _
  have hmark : ¬ closeFence <:+: (serviceObject "a`b\n\x7d``").render.toList := by
    decide +kernel
  have hread : Json.read (serviceObject "a`b\n\x7d``").render =
      .ok (serviceObject "a`b\n\x7d``") := Json.read_render (by decide)
  have hboth := (queryOf_fenced_bare hbefore hafter hbraced "q").1 hmark
  exact ⟨hbefore, hafter, hbraced, (hboth.2 _ hread).2.2⟩

/-- **Three backticks in the name of a service**: bare, the object gives the
    query; in a block it is unparsable. -/
theorem queryOf_tripleTick :
    (∃ f : Failure, queryOf (fencedReply "" (serviceObject "a```b").render "") "q" =
      .error (.failure f) ∧ f.kind = .unparsable) ∧
    ∃ query, queryOf (bareReply "" (serviceObject "a```b").render "") "q" = .ok query ∧
      query.service = some "a```b" := by
  have hread : Json.read (serviceObject "a```b").render = .ok (serviceObject "a```b") :=
    Json.read_render (by decide)
  have hprose : IsProse "" := by decide
  constructor
  · have hmark : closeFence <:+: (serviceObject "a```b").render.toList := by
      decide +kernel
    exact queryOf_of_holdsNoObject (Or.inr (Or.inl (malformed_fencedReply hprose hread hmark))) "q"
  · have hopen : ¬ openFence <:+: (serviceObject "a```b").render.toList := by
      decide +kernel
    have hholds : Holds (bareReply "" (serviceObject "a```b").render "") (serviceObject "a```b") := by
      refine ⟨_, locate?_bareReply hprose hprose (braced_render _) hopen, ?_⟩
      rw [String.ofList_toList]
      exact hread
    rw [queryOf, objectOf_of_holds hholds]
    exact ⟨_, rfl, by decide⟩

end SpanQuest.Reply
