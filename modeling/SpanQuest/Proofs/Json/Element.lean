/-
  How the items of an array and the members of an object are read.

  Both readers read one element and look at what follows it: the end, or a comma
  and more elements.  Only the elements differ, so that what holds after an element
  is said once for both.

  * `readMember`: one member, with a reader of its value;
  * `readRest`: what follows an element;
  * `readItems_step`, `readMembers_step`: the two readers, put together from these.
-/
import SpanQuest.Proofs.Json.Text

namespace SpanQuest.Json

/-! ## The end or a comma -/

/-- What follows an element: the end, where `whole` was read, or a comma, after
    which `more` goes on. -/
def readRest (close : Char) (whole : Json) (more : List Char → Reading Json) (cs : List Char) :
    Reading Json :=
  match skipGap cs with
  | [] => .error (.malformed .expectedComma 0)
  | c :: rest =>
    if c = close then .ok (whole, rest)
    else if c = ',' then more (skipGap rest)
    else .error (.malformed .expectedComma (rest.length + 1))

section

variable {close : Char} {cs rest : List Char} (whole : Json) (more : List Char → Reading Json)

theorem readRest_close (h : skipGap cs = close :: rest) :
    readRest close whole more cs = .ok (whole, rest) := by
  simp [readRest, h]

theorem readRest_comma (hclose : ',' ≠ close) (h : skipGap cs = ',' :: rest) :
    readRest close whole more cs = more (skipGap rest) := by
  simp [readRest, h, hclose]

theorem readRest_other (hclose : ∀ rest, skipGap cs ≠ close :: rest)
    (hcomma : ∀ rest, skipGap cs ≠ ',' :: rest) :
    readRest close whole more cs = .error (.malformed .expectedComma (skipGap cs).length) := by
  unfold readRest
  generalize skipGap cs = ds at hclose hcomma ⊢
  rcases ds with _ | ⟨c, rest⟩
  · rfl
  have hclose : c ≠ close := fun hc => hclose rest (congrArg (· :: rest) hc)
  have hcomma : c ≠ ',' := fun hc => hcomma rest (congrArg (· :: rest) hc)
  simp [hclose, hcomma]

end

/-! ## Members -/

/-- The member that begins at a place, where `value` reads its value. -/
def readMember (value : List Char → Reading Json) : List Char → Reading (String × Json)
  | '"' :: rest =>
    match readText rest with
    | .error stop => .error stop
    | .ok (name, rest) =>
      match skipGap rest with
      | ':' :: rest =>
        match value (skipGap rest) with
        | .error stop => .error stop
        | .ok (v, rest) => .ok ((name, v), rest)
      | rest => .error (.malformed .expectedColon rest.length)
  | cs => .error (.malformed .expectedName cs.length)

/-! ## The two readers -/

variable {fuel : Nat}

/-- **One step of the reader of items**: an item, and what follows it. -/
theorem readItems_step (seen : List Json) (cs : List Char) :
    readItems (fuel + 1) seen cs =
      match readValue fuel cs with
      | .error stop => .error stop
      | .ok (v, rest) =>
        readRest ']' (.array (v :: seen).reverse) (readItems fuel (v :: seen)) rest := by
  rw [readItems]
  rcases readValue fuel cs with stop | ⟨v, rest⟩
  · rfl
  dsimp only
  split
  · next hrest => exact (readRest_close _ _ hrest).symm
  · next hrest => exact (readRest_comma _ _ (by decide) hrest).symm
  · next hclose hcomma => exact (readRest_other _ _ hclose hcomma).symm

/-- **One step of the reader of members**: a member, and what follows it. -/
theorem readMembers_step (seen : List (String × Json)) (cs : List Char) :
    readMembers (fuel + 1) seen cs =
      match readMember (readValue fuel) cs with
      | .error stop => .error stop
      | .ok (p, rest) =>
        readRest '}' (.object (Mapping.ofPairs (p :: seen).reverse)) (readMembers fuel (p :: seen))
          rest := by
  rcases cs with _ | ⟨c, rest⟩
  · simp [readMembers, readMember]
  by_cases hquote : c = '"'
  case neg => simp [readMembers, readMember, hquote]
  subst hquote
  simp only [readMembers, readMember]
  rcases readText rest with stop | ⟨name, afterName⟩
  · rfl
  dsimp only
  rcases skipGap afterName with _ | ⟨x, afterColon⟩
  · rfl
  by_cases hcolon : x = ':'
  case neg => simp [hcolon]
  simp only [hcolon]
  rcases readValue fuel (skipGap afterColon) with stop | ⟨v, afterValue⟩
  · rfl
  dsimp only
  split
  · next hrest => exact (readRest_close _ _ hrest).symm
  · next hrest => exact (readRest_comma _ _ (by decide) hrest).symm
  · next hclose hcomma => exact (readRest_other _ _ hclose hcomma).symm

end SpanQuest.Json
