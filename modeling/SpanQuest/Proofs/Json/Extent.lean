/-
  What a reader of JSON comes to.

  Whatever characters it is given, a reader takes some of them from the front
  and leaves the others.  What it makes of them is `Readable`: no integer in it is
  too long, no double is out of range, and no object has two members of one name.
  Where it stops because an integer is too long, the digits of that integer stand
  in the text.

  * `Comes`: what a reader may come to, one lemma for each reader;
  * `read_cases`: a text is read as a readable value, or it is malformed, or it
    holds the digits of an integer that is too long;
  * `read_overlong`: such an integer is refused where a value is wanted.
-/
import SpanQuest.Proofs.Json.RoundTrip
import SpanQuest.Proofs.Number.Extent

namespace SpanQuest.Json

open SpanQuest.Text

/-! ## What a reader may come to -/

/-- Among the characters stand `count` digits in a row, more than an integer may
    have. -/
def LongRun (count : Nat) (cs : List Char) : Prop :=
  ∃ run, run <:+: cs ∧ (∀ c ∈ run, isFigure c = true) ∧ run.length = count ∧
    Number.digitLimit < count

theorem LongRun.of_infix {count : Nat} {cs ds : List Char} (h : LongRun count cs)
    (hwithin : cs <:+: ds) : LongRun count ds := by
  obtain ⟨run, hrun, hall, hcount, hlimit⟩ := h
  exact ⟨run, hrun.trans hwithin, hall, hcount, hlimit⟩

/-- **What a reader may come to** at the characters `cs`: a value with the
    property `P` and characters at their end, a complaint, or an integer that is
    too long. -/
inductive Comes {α : Type} (P : α → Prop) (cs : List Char) : Reading α → Prop where
  | value {v : α} {rest : List Char} (hv : P v) (hrest : rest <:+ cs) : Comes P cs (.ok (v, rest))
  | malformed (complaint : Complaint) (left : Nat) :
      Comes P cs (.error (.malformed complaint left))
  | tooLong {count : Nat} (hrun : LongRun count cs) : Comes P cs (.error (.tooManyDigits count))

theorem Comes.of_suffix {α : Type} {P : α → Prop} {cs ds : List Char} {r : Reading α}
    (h : Comes P cs r) (hsuffix : cs <:+ ds) : Comes P ds r := by
  cases h with
  | value hv hrest => exact .value hv (hrest.trans hsuffix)
  | malformed complaint left => exact .malformed complaint left
  | tooLong hrun => exact .tooLong (hrun.of_infix hsuffix.isInfix)

/-- A reader that stops has not come to a value, of whatever property. -/
theorem Comes.stop {α β : Type} {P : α → Prop} {Q : β → Prop} {cs : List Char} {stop : Stop}
    (h : Comes P cs (.error stop)) : Comes Q cs (.error stop) := by
  cases h with
  | malformed complaint left => exact .malformed complaint left
  | tooLong hrun => exact .tooLong hrun

theorem Comes.of_ok {α : Type} {P : α → Prop} {cs rest : List Char} {v : α}
    (h : Comes P cs (.ok (v, rest))) : P v ∧ rest <:+ cs := by
  cases h with
  | value hv hrest => exact ⟨hv, hrest⟩

/-- A text may be anything. -/
abbrev ComesAny {α : Type} (cs : List Char) (r : Reading α) : Prop :=
  Comes (fun _ => True) cs r

theorem skipGap_suffix (cs : List Char) : skipGap cs <:+ cs :=
  List.dropWhile_suffix _

/-! ## Texts -/

theorem comes_readLowHalf (high : Nat) (cs : List Char) : ComesAny cs (readLowHalf high cs) := by
  unfold readLowHalf
  split
  · next a b c d e rest =>
    split
    · exact .malformed _ _
    · split
      · exact .value trivial ⟨['\\', 'u', a, b, c, d], rfl⟩
      · exact .value trivial List.suffix_rfl
  · exact .value trivial List.suffix_rfl

theorem comes_readCodePoint (cs : List Char) : ComesAny cs (readCodePoint cs) := by
  unfold readCodePoint
  split
  · next a b c d e rest =>
    have hsuffix : e :: rest <:+ a :: b :: c :: d :: e :: rest := ⟨[a, b, c, d], rfl⟩
    split
    · exact .malformed _ _
    · split
      · exact (comes_readLowHalf _ _).of_suffix hsuffix
      · exact .value trivial hsuffix
  · exact .malformed _ _

theorem comes_readEscape (start : Nat) (cs : List Char) : ComesAny cs (readEscape start cs) := by
  unfold readEscape
  split
  · exact .malformed _ _
  · exact (comes_readCodePoint _).of_suffix (List.suffix_cons _ _)
  · split
    · exact .value trivial (List.suffix_cons _ _)
    · exact .malformed _ _

theorem comes_readTextFrom (start fuel : Nat) (seen cs : List Char) :
    ComesAny cs (readTextFrom start fuel seen cs) := by
  induction fuel generalizing seen cs with
  | zero => exact .malformed _ _
  | succ fuel ih =>
    rcases cs with _ | ⟨c, rest⟩
    · exact .malformed _ _
    rw [readTextFrom]
    have hrest : rest <:+ c :: rest := List.suffix_cons c rest
    split
    · exact .value trivial hrest
    split
    · have hescape := comes_readEscape start rest
      split
      · next d after hread =>
        rw [hread] at hescape
        exact (ih _ after).of_suffix (hescape.of_ok.2.trans hrest)
      · next stop hread =>
        rw [hread] at hescape
        exact hescape.stop.of_suffix hrest
    split
    · exact .malformed _ _
    · exact (ih _ rest).of_suffix hrest

theorem comes_readText (cs : List Char) : ComesAny cs (readText cs) := by
  have htext := comes_readTextFrom (cs.length + 1) (cs.length + 1) [] cs
  unfold readText
  split
  · next hread =>
    rw [hread] at htext
    exact .value trivial htext.of_ok.2
  · next hread =>
    rw [hread] at htext
    exact htext.stop

/-! ## Numbers -/

/-- **A value that a text may be read as**: every integer in it is short, every
    double is in range, and no object has two members of one name. -/
inductive Readable : Json → Prop where
  | null : Readable null
  | bool (b : Bool) : Readable (bool b)
  | int {n : Int} (h : Short n) : Readable (int n)
  | double {x : Double} (h : x.InRange) : Readable (double x)
  | text (s : String) : Readable (text s)
  | array {items : List Json} (h : ∀ v ∈ items, Readable v) : Readable (array items)
  | object {members : List (String × Json)} (hnames : (Mapping.keys members).Nodup)
      (h : ∀ p ∈ members, Readable p.2) : Readable (object members)

theorem Readable.nodup {members : List (String × Json)} (h : Readable (.object members)) :
    (Mapping.keys members).Nodup := by
  cases h with
  | object hnames => exact hnames

/-- A member of a readable value is readable, also where there is none. -/
theorem Readable.member {v : Json} (hv : v.Readable) (name : String) : (v.member name).Readable := by
  unfold Json.member
  cases hfound : v.member? name with
  | none => exact .null
  | some w =>
    cases hv with
    | object _ hmembers => exact hmembers _ (Mapping.mem_of_get? hfound)
    | _ => cases hfound

theorem readFraction_suffix (cs : List Char) : (readFraction cs).2 <:+ cs := by
  unfold readFraction
  split
  · split
    · exact (List.dropWhile_suffix _).trans (List.suffix_cons _ _)
    · exact List.suffix_rfl
  · exact List.suffix_rfl

theorem signed_suffix (cs : List Char) : (Number.signed cs).2 <:+ cs := by
  unfold Number.signed
  split
  · exact List.suffix_cons _ _
  · exact List.suffix_cons _ _
  · exact List.suffix_rfl

theorem readExponent_suffix (cs : List Char) : (readExponent cs).2 <:+ cs := by
  unfold readExponent
  split
  · exact List.suffix_rfl
  · next e after =>
    split
    · split
      next negative body hsigned =>
      have hbody : body <:+ after := by simpa [hsigned] using signed_suffix after
      dsimp only
      split
      · exact List.suffix_rfl
      · exact ((List.dropWhile_suffix _).trans hbody).trans (List.suffix_cons e after)
    · exact List.suffix_rfl

theorem figure_lt {c : Char} (h : isFigure c = true) : c.toNat - 0x30 < 10 := by
  simp only [isFigure, Bool.and_eq_true, decide_eq_true_eq, Char.le_def] at h
  have hupper : c.toNat ≤ 0x39 := h.2
  omega

theorem comes_finishNumber (negative : Bool) {whole rest cs : List Char}
    (hwhole : ∀ c ∈ whole, isFigure c = true) (hcs : whole ++ rest <:+ cs) :
    Comes Readable cs (finishNumber negative whole rest) := by
  have hrest : (readExponent (readFraction rest).2).2 <:+ cs :=
    ((readExponent_suffix _).trans (readFraction_suffix rest)).trans
      ((List.suffix_append whole rest).trans hcs)
  unfold finishNumber
  dsimp only
  split
  · split
    · next hlimit =>
      exact .tooLong ⟨whole, (List.infix_append' [] whole rest).trans hcs.isInfix, hwhole, rfl, hlimit⟩
    · next hlimit =>
      refine .value (.int ?_) hrest
      exact short_of_digits (fun c hc => figure_lt (hwhole c hc)) (Nat.not_lt.1 hlimit) negative
  · exact .value (.double (Double.inRange_ofDecimal _ _ _)) hrest

theorem comes_readNumber (cs : List Char) : Comes Readable cs (readNumber cs) := by
  unfold readNumber
  split
  next negative body hbody =>
  have hsuffix : body <:+ cs := by
    split at hbody
    · cases hbody
      exact List.suffix_cons _ _
    · cases hbody
      exact List.suffix_rfl
  split
  · exact .malformed _ _
  · next c rest =>
    split
    · next hc =>
      rw [eq_of_beq hc] at hsuffix
      exact comes_finishNumber negative (by simp [isFigure]) hsuffix
    split
    · refine comes_finishNumber negative (List.all_eq_true.1 List.all_takeWhile) ?_
      rwa [List.takeWhile_append_dropWhile]
    · exact .malformed _ _

theorem comes_readScalar (cs : List Char) : Comes Readable cs (readScalar cs) := by
  unfold readScalar
  split
  · next rest => exact .value .null ⟨['n', 'u', 'l', 'l'], rfl⟩
  · next rest => exact .value (.bool true) ⟨['t', 'r', 'u', 'e'], rfl⟩
  · next rest => exact .value (.bool false) ⟨['f', 'a', 'l', 's', 'e'], rfl⟩
  · next rest => exact .value (.double trivial) ⟨['N', 'a', 'N'], rfl⟩
  · next rest => exact .value (.double trivial) ⟨"Infinity".toList, rfl⟩
  · next rest => exact .value (.double trivial) ⟨"-Infinity".toList, rfl⟩
  · exact comes_readNumber cs

/-! ## Values -/

/-- The three readers of values come to bounded values with the same fuel. -/
structure ValuesCome (fuel : Nat) : Prop where
  value : ∀ cs, Comes Readable cs (readValue fuel cs)
  items : ∀ seen cs, (∀ v ∈ seen, Readable v) → Comes Readable cs (readItems fuel seen cs)
  members : ∀ (seen : List (String × Json)) cs, (∀ p ∈ seen, Readable p.2) →
    Comes Readable cs (readMembers fuel seen cs)

variable {fuel : Nat}

theorem ValuesCome.readValue_succ (h : ValuesCome fuel) (cs : List Char) :
    Comes Readable cs (readValue (fuel + 1) cs) := by
  rcases cs with _ | ⟨c, rest⟩
  · exact .malformed _ _
  have hrest : rest <:+ c :: rest := List.suffix_cons c rest
  have hskip : skipGap rest <:+ c :: rest := (skipGap_suffix rest).trans hrest
  rw [readValue]
  split
  · have htext := comes_readText rest
    split
    · next hread =>
      rw [hread] at htext
      exact .value (.text _) (htext.of_ok.2.trans hrest)
    · next hread =>
      rw [hread] at htext
      exact htext.stop.of_suffix hrest
  split
  · split
    · next after hafter =>
      rw [hafter] at hskip
      exact .value (.object List.nodup_nil (by simp)) ((List.suffix_cons _ _).trans hskip)
    · exact (h.members [] _ (by simp)).of_suffix hskip
  split
  · split
    · next after hafter =>
      rw [hafter] at hskip
      exact .value (.array (by simp)) ((List.suffix_cons _ _).trans hskip)
    · exact (h.items [] _ (by simp)).of_suffix hskip
  · exact comes_readScalar _

theorem comes_readRest (close : Char) {whole : Json} {more : List Char → Reading Json}
    (hwhole : Readable whole) (hmore : ∀ cs, Comes Readable cs (more cs)) (cs : List Char) :
    Comes Readable cs (readRest close whole more cs) := by
  have hskip := skipGap_suffix cs
  unfold readRest
  split
  · exact .malformed _ _
  · next c rest hrest =>
    rw [hrest] at hskip
    have hafter := (List.suffix_cons c rest).trans hskip
    split
    · exact .value hwhole hafter
    split
    · exact (hmore _).of_suffix ((skipGap_suffix rest).trans hafter)
    · exact .malformed _ _

theorem ValuesCome.member (h : ValuesCome fuel) (cs : List Char) :
    Comes (fun p => Readable p.2) cs (readMember (readValue fuel) cs) := by
  unfold readMember
  split
  · next rest =>
    have hrest : rest <:+ '"' :: rest := List.suffix_cons _ rest
    have htext := comes_readText rest
    split
    · next hread =>
      rw [hread] at htext
      exact htext.stop.of_suffix hrest
    · next name afterName hread =>
      rw [hread] at htext
      have hcolon := (skipGap_suffix afterName).trans (htext.of_ok.2.trans hrest)
      split
      · next afterColon heq =>
        rw [heq] at hcolon
        have hstart := (skipGap_suffix afterColon).trans ((List.suffix_cons _ _).trans hcolon)
        have hvalue := (h.value (skipGap afterColon)).of_suffix hstart
        split
        · next hread =>
          rw [hread] at hvalue
          exact hvalue.stop
        · next hread =>
          rw [hread] at hvalue
          exact .value hvalue.of_ok.1 hvalue.of_ok.2
      · exact .malformed _ _
  · exact .malformed _ _

theorem ValuesCome.readItems_succ (h : ValuesCome fuel) {seen : List Json} (cs : List Char)
    (hseen : ∀ v ∈ seen, Readable v) : Comes Readable cs (readItems (fuel + 1) seen cs) := by
  have hvalue := h.value cs
  rw [readItems_step]
  split
  · next hread =>
    rw [hread] at hvalue
    exact hvalue.stop
  · next v rest hread =>
    rw [hread] at hvalue
    obtain ⟨hv, hrest⟩ := hvalue.of_ok
    have hall : ∀ w ∈ v :: seen, Readable w := List.forall_mem_cons.2 ⟨hv, hseen⟩
    have hwhole : Readable (.array (v :: seen).reverse) :=
      .array fun w hw => hall w (List.mem_reverse.1 hw)
    exact (comes_readRest _ hwhole (fun cs => h.items _ cs hall) rest).of_suffix hrest

theorem ValuesCome.readMembers_succ (h : ValuesCome fuel) {seen : List (String × Json)}
    (cs : List Char) (hseen : ∀ p ∈ seen, Readable p.2) :
    Comes Readable cs (readMembers (fuel + 1) seen cs) := by
  have hmember := h.member cs
  rw [readMembers_step]
  split
  · next hread =>
    rw [hread] at hmember
    exact hmember.stop
  · next p rest hread =>
    rw [hread] at hmember
    obtain ⟨hp, hrest⟩ := hmember.of_ok
    have hall : ∀ q ∈ p :: seen, Readable q.2 := List.forall_mem_cons.2 ⟨hp, hseen⟩
    have hwhole : Readable (.object (Mapping.ofPairs (p :: seen).reverse)) :=
      .object (Mapping.nodup_keys_ofPairs _) fun q hq =>
        hall q (List.mem_reverse.1 (Mapping.mem_ofPairs hq))
    exact (comes_readRest _ hwhole (fun cs => h.members _ cs hall) rest).of_suffix hrest

/-- **Whatever its fuel, a reader of values comes to what it may.** -/
theorem valuesCome (fuel : Nat) : ValuesCome fuel := by
  -- the readers call each other with less fuel, so that all three go together
  induction fuel with
  | zero => exact ⟨fun _ => .malformed _ _, fun _ _ _ => .malformed _ _, fun _ _ _ => .malformed _ _⟩
  | succ fuel ih =>
    exact ⟨ih.readValue_succ, fun _ => ih.readItems_succ, fun _ => ih.readMembers_succ⟩

/-! ## Whole texts -/

/-- A value that was read from characters is readable, and where they are refused
    for an integer its digits stand among them. -/
theorem readChars_cases (cs : List Char) :
    (∃ v, readChars cs = .ok v ∧ Readable v) ∨
      (∃ complaint left, readChars cs = .error (.malformed complaint left)) ∨
      ∃ count, readChars cs = .error (.tooManyDigits count) ∧ LongRun count cs := by
  have hvalue := (valuesCome (2 * cs.length + 2)).value (skipGap cs)
  unfold readChars
  generalize readValue (2 * cs.length + 2) (skipGap cs) = r at hvalue
  cases hvalue with
  | value hv hrest =>
    dsimp only
    split
    · exact Or.inl ⟨_, rfl, hv⟩
    · exact Or.inr (Or.inl ⟨_, _, rfl⟩)
  | malformed complaint left => exact Or.inr (Or.inl ⟨complaint, left, rfl⟩)
  | tooLong hrun =>
    exact Or.inr (Or.inr ⟨_, rfl, hrun.of_infix (skipGap_suffix cs).isInfix⟩)

/-- **A text is read as a readable value, or it is malformed, or it holds the
    digits of an integer that is too long.** -/
theorem read_cases (s : String) :
    (∃ v, Json.read s = .ok v ∧ Readable v) ∨
      (∃ complaint place, Json.read s = .error (.malformed complaint place)) ∨
      ∃ count, Json.read s = .error (.tooManyDigits count) ∧ LongRun count s.toList := by
  unfold Json.read
  dsimp only
  split
  · exact Or.inr (Or.inl ⟨_, _, rfl⟩)
  · rcases readChars_cases s.toList with
      ⟨v, hread, hv⟩ | ⟨complaint, left, hread⟩ | ⟨count, hread, hrun⟩
    · exact Or.inl ⟨v, by rw [hread]; rfl, hv⟩
    · exact Or.inr (Or.inl ⟨complaint, _, by rw [hread]; rfl⟩)
    · exact Or.inr (Or.inr ⟨count, by rw [hread]; rfl, hrun⟩)

theorem readable_of_read {s : String} {v : Json} (h : Json.read s = .ok v) : v.Readable := by
  rcases read_cases s with ⟨w, hread, hw⟩ | ⟨c, p, hread⟩ | ⟨n, hread, -⟩ <;>
    cases h.symm.trans hread
  exact hw

theorem longRun_of_read {s : String} {count : Nat} (h : Json.read s = .error (.tooManyDigits count)) :
    LongRun count s.toList := by
  rcases read_cases s with ⟨w, hread, -⟩ | ⟨c, p, hread⟩ | ⟨n, hread, hrun⟩ <;>
    cases h.symm.trans hread
  exact hrun

/-! ## Integers that are too long -/

theorem readValue_object_of_stop {cs : List Char} {stop : Stop} (hgap : skipGap cs = cs)
    (hvalue : readValue fuel cs = .error stop) (k : String) :
    readValue (fuel + 2) ('{' :: (renderText k ++ ':' :: ' ' :: cs)) = .error stop := by
  obtain ⟨text, htext, hread⟩ := readText_renderText k (':' :: ' ' :: cs)
  have hcolon : skipGap (':' :: ' ' :: cs) = ':' :: ' ' :: cs := rfl
  have hstart : skipGap (' ' :: cs) = cs := hgap
  have hmembers : readMembers (fuel + 1) [] (renderText k ++ ':' :: ' ' :: cs) = .error stop := by
    rw [htext, readMembers_step, readMember]
    simp only [hread, hcolon, hstart, hvalue]
  have hname := (reads_text k).skipGap_append gap_nil (':' :: ' ' :: cs)
  rw [List.nil_append] at hname
  simp only [readValue, hname]
  simpa [renderText] using hmembers

theorem renderChars_natMember (k : String) (n : Nat) :
    renderChars (object [(k, int n)]) =
      '{' :: (renderText k ++ ':' :: ' ' :: (decimalDigits n ++ ['}'])) := by
  simp [renderChars, renderMembers, renderInt]

/-- **An object with an integer that is too long is refused for it.** -/
theorem read_overlong (k : String) {n : Nat} (hn : ¬ Short n) :
    Json.read (object [(k, int n)]).render =
      .error (.tooManyDigits (decimalDigits n).length) := by
  obtain ⟨c, ds, hdigits, hfigure⟩ := exists_figure n
  have hgap : skipGap (decimalDigits n ++ ['}']) = decimalDigits n ++ ['}'] := by
    have hc : isGap c = false := by
      have hopens := opens_of_isFigure hfigure
      unfold opens at hopens
      simp_all
    rw [hdigits]
    exact skipGap_append gap_nil hc (ds ++ ['}'])
  have hlong : Number.digitLimit < (decimalDigits n).length := Nat.lt_of_not_le hn
  have hvalue (m : Nat) : readValue (m + 1) (decimalDigits n ++ ['}']) =
      .error (.tooManyDigits (decimalDigits n).length) := by
    rw [(readValue_decimalDigits m n (ends_cons rfl [])).1,
      finishNumber_of_ends false _ (ends_cons rfl []), if_pos hlong]
  have hread : readChars (renderChars (object [(k, int n)])) =
      .error (.tooManyDigits (decimalDigits n).length) := by
    have hskip (cs : List Char) : skipGap ('{' :: cs) = '{' :: cs := rfl
    rw [renderChars_natMember]
    unfold readChars
    rw [hskip, List.length_cons, Nat.mul_succ, readValue_object_of_stop hgap (hvalue (_ + 1)) k]
  unfold Json.read render
  rw [String.toList_ofList]
  dsimp only
  split
  · next rest hrest =>
    rw [renderChars_natMember] at hrest
    exact absurd (List.cons.inj hrest).1 (by decide)
  · rw [hread]
    rfl

end SpanQuest.Json
