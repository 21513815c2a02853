/-
  What a reply is read as.

  A reply to a question holds an object, which gives a query whatever its
  members are; or it holds none, and the reply is unparsable; or an integer in
  what should be JSON is too long, which is a fault.  There is no other way
  out.  An object among prose is read as it was written.

  * `queryOf_outcomes`: the three ways out of reading a reply;
  * `objectOf_among_prose`: the object among prose, and the query in it.
-/
import SpanQuest.Proofs.Json.Extent
import SpanQuest.Proofs.Query.Locate

namespace SpanQuest.Reply

/-! ## What a reply holds -/

/-- What should be JSON in the reply is the text of the value. -/
def Holds (reply : String) (v : Json) : Prop :=
  ∃ span, locate? reply.toList = some span ∧ Json.read (String.ofList span) = .ok v

/-- What should be JSON in the reply is the text of no value. -/
def Malformed (reply : String) : Prop :=
  ∃ span complaint place, locate? reply.toList = some span ∧
    Json.read (String.ofList span) = .error (.malformed complaint place)

/-- **The reply has no object**: nothing in it should be JSON, or what should be
    is the text of no value, or of one that is no object. -/
def HoldsNoObject (reply : String) : Prop :=
  locate? reply.toList = none ∨ Malformed reply ∨
    ∃ v, Holds reply v ∧ ∀ members, v ≠ .object members

/-- An integer in what should be JSON has `count` digits, more than one may
    have. -/
def Overlong (reply : String) (count : Nat) : Prop :=
  ∃ span, locate? reply.toList = some span ∧
    Json.read (String.ofList span) = .error (.tooManyDigits count)

theorem Overlong.longRun {reply : String} {count : Nat} (h : Overlong reply count) :
    Json.LongRun count reply.toList := by
  obtain ⟨span, hspan, hread⟩ := h
  have hrun := Json.longRun_of_read hread
  rw [String.toList_ofList] at hrun
  exact hrun.of_infix (infix_of_locate? hspan)

theorem overlong_natMember {k : String} {n : Nat} (hk : '`' ∉ Json.renderText k)
    (hn : ¬ Short n) :
    Overlong (Json.object [(k, .int n)]).render (decimalDigits n).length := by
  have htick : '`' ∉ Json.renderChars (.object [(k, .int n)]) := by
    have hdigits : '`' ∉ decimalDigits n := fun h =>
      absurd (Json.isFigure_of_mem_decimalDigits h) (by decide)
    simp [Json.renderChars_natMember, hk, hdigits]
  have hmark : ¬ openFence <:+: [] ++ Json.renderChars (.object [(k, .int n)]) ++ [] := by
    intro h
    rw [List.nil_append, List.append_nil] at h
    exact htick (h.subset (List.mem_cons_self ..))
  have hspan := locate?_among_prose _ List.not_mem_nil List.not_mem_nil hmark
  rw [List.nil_append, List.append_nil] at hspan
  exact ⟨_, by rw [Json.render, String.toList_ofList, hspan], Json.read_overlong k hn⟩

/-- A reply holds an object, or none, or an integer that is too long. -/
theorem holds_cases (reply : String) :
    (∃ members, Holds reply (.object members)) ∨ HoldsNoObject reply ∨
      ∃ count, Overlong reply count := by
  rcases hspan : locate? reply.toList with _ | span
  · exact Or.inr (Or.inl (Or.inl hspan))
  rcases hread : Json.read (String.ofList span) with (⟨c, p⟩ | count) | v
  · exact Or.inr (Or.inl (Or.inr (Or.inl ⟨span, c, p, hspan, hread⟩)))
  · exact Or.inr (Or.inr ⟨count, span, hspan, hread⟩)
  · by_cases hobject : ∃ members, v = .object members
    · obtain ⟨members, rfl⟩ := hobject
      exact Or.inl ⟨members, span, hspan, hread⟩
    · exact Or.inr (Or.inl (Or.inr (Or.inr ⟨v, ⟨span, hspan, hread⟩, not_exists.1 hobject⟩)))

/-! ## Ways out -/

section

variable {reply : String}

theorem locate_of_some {span : List Char} (h : locate? reply.toList = some span) :
    locate reply = .ok (String.ofList span) := by
  rw [locate, h]

theorem infix_of_locate {span : String} (h : locate reply = .ok span) :
    span.toList <:+: reply.toList := by
  unfold locate at h
  split at h
  · next cs hcs =>
    cases h
    rw [String.toList_ofList]
    exact infix_of_locate? hcs
  · cases h

theorem objectOf_of_holds {members : List (String × Json)}
    (h : Holds reply (.object members)) : objectOf reply = .ok (.object members) := by
  obtain ⟨span, hspan, hread⟩ := h
  simp only [objectOf, locate_of_some hspan, hread]

theorem queryOf_of_holds {members : List (String × Json)} (h : Holds reply (.object members))
    (question : String) :
    ∃ query, queryOf reply question = .ok query ∧ query.question = question := by
  rw [queryOf, objectOf_of_holds h]
  exact ⟨_, rfl, rfl⟩

theorem queryOf_of_overlong {count : Nat} (h : Overlong reply count) (question : String) :
    queryOf reply question = .error (.fault (.digitLimit count)) := by
  obtain ⟨span, hspan, hread⟩ := h
  simp only [queryOf, objectOf, locate_of_some hspan, hread, Except.map]

theorem queryOf_of_holdsNoObject (h : HoldsNoObject reply) (question : String) :
    ∃ f : Failure, queryOf reply question = .error (.failure f) ∧ f.kind = .unparsable := by
  rcases h with hnone | ⟨span, c, p, hspan, hread⟩ | ⟨v, ⟨span, hspan, hread⟩, hv⟩
  · simp only [queryOf, objectOf, locate, hnone]
    exact ⟨_, rfl, rfl⟩
  · simp only [queryOf, objectOf, locate_of_some hspan, hread]
    exact ⟨_, rfl, rfl⟩
  · cases v with
    | object members => exact absurd rfl (hv members)
    | _ =>
      simp only [queryOf, objectOf, locate_of_some hspan, hread]
      exact ⟨_, rfl, rfl⟩

/-- What the outcome of reading a reply tells of it. -/
def Tells (reply : String) : Except Trouble Query → Prop
  | .ok _ => ∃ members, Holds reply (.object members)
  | .error (.failure f) => HoldsNoObject reply ∧ f.kind = .unparsable
  | .error (.fault (.digitLimit count)) => Overlong reply count
  | .error _ => False

theorem tells_queryOf (reply question : String) : Tells reply (queryOf reply question) := by
  rcases holds_cases reply with ⟨members, h⟩ | h | ⟨count, h⟩
  · obtain ⟨query, hquery, -⟩ := queryOf_of_holds h question
    rw [hquery]
    exact ⟨members, h⟩
  · obtain ⟨f, hf, hkind⟩ := queryOf_of_holdsNoObject h question
    rw [hf]
    exact ⟨h, hkind⟩
  · rw [queryOf_of_overlong h question]
    exact h

end

/-- **Three ways out of reading a reply**: a query exactly if the reply holds an
    object, an unparsable reply exactly if it holds none, and a fault exactly if an
    integer in it is too long.  There is no other trouble. -/
theorem queryOf_outcomes (reply question : String) :
    ((∃ query, queryOf reply question = .ok query) ↔ ∃ members, Holds reply (.object members)) ∧
      ((∃ f : Failure, queryOf reply question = .error (.failure f) ∧ f.kind = .unparsable) ↔
        HoldsNoObject reply) ∧
      (∀ count, queryOf reply question = .error (.fault (.digitLimit count)) ↔
        Overlong reply count) ∧
      ∀ t, queryOf reply question = .error t →
        (∃ f : Failure, t = .failure f ∧ f.kind = .unparsable) ∨
          ∃ count, t = .fault (.digitLimit count) ∧ Json.LongRun count reply.toList := by
  -- what the reply holds leads to its way out, and each way out tells what it holds
  have htells := tells_queryOf reply question
  refine ⟨⟨?_, ?_⟩, ⟨?_, ?_⟩, fun count => ⟨?_, ?_⟩, ?_⟩
  · rintro ⟨query, hquery⟩
    rwa [hquery] at htells
  · rintro ⟨members, h⟩
    obtain ⟨query, hquery, -⟩ := queryOf_of_holds h question
    exact ⟨query, hquery⟩
  · rintro ⟨f, hf, -⟩
    rw [hf] at htells
    exact htells.1
  · exact fun h => queryOf_of_holdsNoObject h question
  · intro hfault
    rwa [hfault] at htells
  · exact fun h => queryOf_of_overlong h question
  · intro t ht
    rw [ht] at htells
    unfold Tells at htells
    split at htells
    · next heq => cases heq
    · next f heq =>
      cases heq
      exact Or.inl ⟨f, rfl, htells.2⟩
    · next count heq =>
      cases heq
      exact Or.inr ⟨count, rfl, htells.longRun⟩
    · exact htells.elim

/-- An object whose one member is an integer of 4301 digits. -/
def overlongObject : Json :=
  .object [("limit", .int (10 ^ 4300 : Nat))]

/-- **A query is missing where an integer is too long**, and the reply does not
    count as unparsable. -/
theorem queryOf_overlongObject :
    queryOf overlongObject.render "show errors" = .error (.fault (.digitLimit 4301)) := by
  have hlength : (decimalDigits (10 ^ 4300)).length = 4301 := length_decimalDigits_pow 4300
  have hlong : ¬ Short (10 ^ 4300 : Nat) := by
    rw [Short, Int.natAbs_natCast, hlength]
    decide
  have hoverlong := overlong_natMember (k := "limit") (by decide +kernel) hlong
  rw [hlength] at hoverlong
  exact queryOf_of_overlong hoverlong "show errors"

/-! ## An object among prose -/

theorem holds_among_prose {members : List (String × Json)} {before after : String}
    (hplain : (Json.object members).isPlain = true) (hbefore : '{' ∉ before.toList)
    (hafter : '}' ∉ after.toList)
    (hmark : ¬ openFence <:+: (before ++ (Json.object members).render ++ after).toList) :
    Holds (before ++ (Json.object members).render ++ after) (.object members) := by
  rw [String.toList_append, String.toList_append, Json.render, String.toList_ofList] at hmark
  refine ⟨Json.renderChars (.object members), ?_, Json.read_render hplain⟩
  rw [String.toList_append, String.toList_append, Json.render, String.toList_ofList]
  exact locate?_among_prose members hbefore hafter hmark

/-- **A plain object among prose is read as it was written**, its members in their
    order, and the query in it does not depend on the prose: no opening brace may
    stand before the object, no closing one after it, and no mark of a block
    anywhere. -/
theorem objectOf_among_prose {members : List (String × Json)} {before after : String}
    (hplain : (Json.object members).isPlain = true) (hbefore : '{' ∉ before.toList)
    (hafter : '}' ∉ after.toList)
    (hmark : ¬ openFence <:+: (before ++ (Json.object members).render ++ after).toList) :
    objectOf (before ++ (Json.object members).render ++ after) = .ok (.object members) ∧
      ∀ question, ∃ query,
        queryOf (before ++ (Json.object members).render ++ after) question = .ok query ∧
          queryOf (Json.object members).render question = .ok query := by
  have hamong := objectOf_of_holds (holds_among_prose hplain hbefore hafter hmark)
  have halone : objectOf (Json.object members).render = .ok (.object members) := by
    have hmark' : ¬ openFence <:+: ("" ++ (Json.object members).render ++ "").toList := by
      rw [String.empty_append, String.append_empty]
      intro h
      rw [String.toList_append, String.toList_append] at hmark
      exact hmark (h.trans ⟨before.toList, after.toList, rfl⟩)
    have hbare := holds_among_prose hplain List.not_mem_nil List.not_mem_nil hmark'
    rw [String.empty_append, String.append_empty] at hbare
    exact objectOf_of_holds hbare
  refine ⟨hamong, fun question => ?_⟩
  rw [queryOf, queryOf, hamong, halone]
  exact ⟨_, rfl, rfl⟩

/-- Braces in names and texts, an object in an object, and prose with the other
    braces. -/
def bracedMembers : List (String × Json) :=
  [("a\x7b", .text "\x7d\x7b\"😀"), ("service", .text "api"),
    ("b", .object [("c", .array [.int (-3), .null, .bool true, .object []])])]

theorem objectOf_among_prose_braced :
    objectOf ("Sure \x7d :" ++ (Json.object bracedMembers).render ++ " \x7b done") =
      .ok (.object bracedMembers) ∧
    ∀ question, ∃ query,
      queryOf ("Sure \x7d :" ++ (Json.object bracedMembers).render ++ " \x7b done") question =
          .ok query ∧
        queryOf (Json.object bracedMembers).render question = .ok query := by
  refine objectOf_among_prose (by decide) (by decide) (by decide) ?_
  -- a mark begins with a backtick, and there is none
  rw [String.toList_append, String.toList_append, Json.render, String.toList_ofList]
  intro h
  have htick := h.subset (List.mem_cons_self ..)
  revert htick
  decide +kernel

end SpanQuest.Reply
