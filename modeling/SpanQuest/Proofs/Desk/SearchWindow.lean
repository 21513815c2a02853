/-
  The window of a search.

  A desk opens with every lookback that is a duration, but the window from a
  lookback before now until now is made only once the model has answered.  It
  has to begin in the calendar, in year 1 or later, and that depends on the
  clock: a lookback that the desk took may fail a call whose reply was good.

  * `Lookback.read_cases`: what a text is, as a lookback;
  * `SearchRequest.build_eq_ok_iff`: a request is made exactly if its window
    begins in the calendar and its limit can be shown;
  * `resume_of_not_fits`: what becomes of a good reply where it does not begin
    there;
  * `opened_lookback_outcomes`: all of it, for a desk and all its runs;
  * `opened_farLookback`: a lookback that is taken, and fails.
-/
import SpanQuest.Proofs.Desk.Backends
import SpanQuest.Proofs.Desk.Posting
import SpanQuest.Proofs.Search.LookbackText

namespace SpanQuest

open Backend

/-! ## Lookbacks -/

namespace Lookback

variable {l : Lookback} {now : Moment}

/-- The window of the lookback at a moment begins in the calendar. -/
def Fits (l : Lookback) (now : Moment) : Prop :=
  Moment.first ≤ now.micros - 1000000 * l.seconds

instance (l : Lookback) (now : Moment) : Decidable (l.Fits now) :=
  inferInstanceAs (Decidable (_ ≤ _))

theorem one_minute_le (u : LookbackUnit) : 60 ≤ u.seconds := by
  cases u <;> decide

/-- **What a text is, as a lookback**: none, one of too many digits, one that is no
    duration, or a lookback of a minute at least. -/
theorem read_cases (given : String) :
    read given = .error (.failure (.badLookback given)) ∨
    (∃ count, Number.digitLimit < count ∧ read given = .error (.fault (.digitLimit count))) ∨
    read given = .error (.fault .durationRange) ∨
    ∃ l, read given = .ok l ∧ l.given = given ∧ 60 ≤ l.seconds ∧
      l.seconds / 86400 ≤ maxDays := by
  have hverdict := verdict_read given
  generalize read given = r at hverdict
  cases hverdict with
  | unsaid | zero => exact Or.inl rfl
  | manyDigits h hlong => exact Or.inr (Or.inl ⟨_, hlong, rfl⟩)
  | beyond => exact Or.inr (Or.inr (Or.inl rfl))
  | @lookback digits n unit h hshort hpos hrange =>
    refine Or.inr (Or.inr (Or.inr ⟨_, rfl, rfl, ?_, Nat.not_lt.1 (isDuration_iff.1 hrange)⟩))
    calc 60 ≤ unit.seconds := one_minute_le unit
      _ ≤ n * unit.seconds := Nat.le_mul_of_pos_left _ hpos

theorem not_fits_first (h : 60 ≤ l.seconds) : ¬ l.Fits ⟨Moment.first⟩ := by
  unfold Fits
  dsimp only
  omega

end Lookback

/-! ## Requests -/

theorem Moment.before_eq {now : Moment} (h : now.calendar = true) (l : Lookback) :
    now.before l.seconds =
      if l.Fits now then .ok ⟨now.micros - 1000000 * l.seconds⟩ else .error .dateRange := by
  have hnow : first ≤ now.micros ∧ now.micros ≤ last := by simpa [calendar] using h
  have hstart : (⟨now.micros - 1000000 * l.seconds⟩ : Moment).calendar = true ↔ l.Fits now := by
    unfold Lookback.Fits
    simp only [calendar, Bool.and_eq_true, decide_eq_true_eq]
    omega
  unfold before
  dsimp only
  rw [h, Bool.true_and]
  by_cases hfits : l.Fits now
  · rw [if_pos hfits, if_pos (hstart.2 hfits)]
  · rw [if_neg hfits, if_neg (mt hstart.1 hfits)]

namespace SearchRequest

variable {now : Moment} {l : Lookback}

theorem build_of_not_fits (hnow : now.calendar = true) (h : ¬ l.Fits now) (filters : Filters)
    (limit : Json) : build filters now l limit = .error .dateRange := by
  unfold build
  rw [Moment.before_eq hnow, if_neg h]

/-- **A request is made exactly if its window begins in the calendar** and its
    limit can be shown. -/
theorem build_eq_ok_iff (hnow : now.calendar = true) (filters : Filters) (limit : Json) :
    (∃ request, build filters now l limit = .ok request) ↔
      l.Fits now ∧ limit.isShowable = true := by
  constructor
  · rintro ⟨request, h⟩
    by_cases hfits : l.Fits now
    · refine ⟨hfits, ?_⟩
      by_contra hlong
      unfold build Json.shown at h
      rw [Moment.before_eq hnow, if_pos hfits, if_neg hlong] at h
      cases h
    · rw [build_of_not_fits hnow hfits] at h
      cases h
  · rintro ⟨hfits, hshown⟩
    unfold build Json.shown
    rw [Moment.before_eq hnow, if_pos hfits, if_pos hshown]
    exact ⟨_, rfl⟩

end SearchRequest

/-! ## Desks -/

namespace Desk

variable {d : Desk} {call : Nat} {question : String} {now : Moment}

/-- What a caller is told whose window does not begin in the calendar. -/
def outOfCalendar : Failure :=
  .protocol "Unexpected backend failure: date value out of range" .null .null

/-- The call that waited has failed for its window, although its reply was good:
    the outcome shows the query, and nothing else is done. -/
def FailsForWindow (d : Desk) (call : Nat) (question : String) (query : Query)
    (after : Desk × List DeskEffect) : Prop :=
  after = ({ d with outcome := .failed question (some query) outOfCalendar, pending := none },
    [.finish call (.error (.failure outOfCalendar))])

/-- **A good reply comes to nothing where the window does not begin in the
    calendar.** -/
theorem resume_of_not_fits {m : ModelIdentity} {adapter : Adapter} {answer : Answer}
    {completion : Completion} {query : Query}
    (ho : d.outcome = (Pending.model question m adapter).outcome)
    (hread : ReadFrom adapter m answer question completion query) (hnow : now.calendar = true)
    (hfits : ¬ d.rules.lookback.Fits now) :
    FailsForWindow d call question query (d.resume call question m adapter answer now) := by
  unfold resume
  rw [hread.completes]
  dsimp only
  unfold resolve atStage
  rw [ho]
  dsimp only [Pending.outcome]
  rw [hread.reads]
  dsimp only
  rw [SearchRequest.build_of_not_fits hnow hfits]
  dsimp only
  rw [refuse_of_within rfl]
  rfl

/-- What follows from the lookback `l` of a desk that was opened with the text
    `given` and a limit. -/
structure LooksBack (d : Desk) (given : String) (limit : Json) (l : Lookback) : Prop where
  reads : Lookback.read given = .ok l
  /-- A request is made exactly if its window begins in the calendar and its limit
      can be shown. -/
  builds : ∀ filters now, now.calendar = true →
    ((∃ request, SearchRequest.build filters now l limit = .ok request) ↔
      l.Fits now ∧ limit.isShowable = true)
  /-- There is always a time at which it does not begin there. -/
  falls : ∃ now : Moment, now.calendar = true ∧ ¬ l.Fits now
  /-- Then a call fails after the model has answered it with a query, at every
      moment of every run. -/
  fails : ∀ es call question m adapter answer now completion query,
    (d.run es).1.pending = some (call, .model question m adapter) →
    ReadFrom adapter m answer question completion query → now.calendar = true → ¬ l.Fits now →
    FailsForWindow (d.run es).1 call question query
      ((d.run es).1.step (.answer call answer now))

/-- **What becomes of a lookback.**  A desk opens with it or refuses it, as no
    lookback or because it is too long; a desk that opened serves exactly those
    calls at whose time the window begins in the calendar. -/
theorem opened_lookback_outcomes (deadline : Deadline) (given : String) (limit : Json)
    (history : Option History) (searches : Bool) (prompts : Prompt.Registry) (shelf : Shelf) :
    (∃ t, opened deadline (.text given) limit history searches prompts shelf = .error t ∧
      (t = .failure (.badLookback given) ∨
        (∃ count, Number.digitLimit < count ∧ t = .fault (.digitLimit count)) ∨
        t = .fault .durationRange)) ∨
    ∃ d l, opened deadline (.text given) limit history searches prompts shelf = .ok d ∧
      LooksBack d given limit l := by
  have refused {t : Trouble} (h : Lookback.read given = .error t) :
      opened deadline (.text given) limit history searches prompts shelf = .error t := by
    rw [opened_eq, Lookback.ofJson, h]
    rfl
  rcases Lookback.read_cases given with h | ⟨count, hcount, h⟩ | h | ⟨l, h, -, hminute, -⟩
  · exact Or.inl ⟨_, refused h, Or.inl rfl⟩
  · exact Or.inl ⟨_, refused h, Or.inr (Or.inl ⟨count, hcount, rfl⟩)⟩
  · exact Or.inl ⟨_, refused h, Or.inr (Or.inr rfl)⟩
  · right
    refine ⟨fresh ⟨deadline, l, limit, history, searches⟩ prompts shelf, l, ?_, h, ?_, ?_, ?_⟩
    · rw [opened_eq, Lookback.ofJson, h]
      rfl
    · intro filters now hnow
      exact SearchRequest.build_eq_ok_iff hnow filters limit
    · exact ⟨⟨Moment.first⟩, by decide, Lookback.not_fits_first hminute⟩
    · intro es call question m adapter answer now completion query hp hread hnow hfits
      have hsound : (fresh ⟨deadline, l, limit, history, searches⟩ prompts shelf).Sound :=
        sound_of_idle rfl
      rw [step_answer hp]
      refine resume_of_not_fits (run_sound hsound es call _ hp) hread hnow ?_
      rw [run_rules hsound es]
      exact hfits

def clock : Moment := ⟨1709294400123456⟩

theorem read_farLookback : Lookback.read "800000d" = .ok ⟨69120000000, "800000d"⟩ := by
  have hsaid : Lookback.Says "800000d" "800000".toList 800000 .day :=
    Lookback.says_iff.2 ⟨by decide +kernel, by decide +kernel⟩
  exact (Lookback.Verdict.lookback hsaid (by decide) (by decide) (by decide)).read_eq

/-- The sample, but that it looks back for more than two thousand years. -/
def farLookback : Desk :=
  fresh ⟨.usual, ⟨69120000000, "800000d"⟩, .int 20, none, false⟩ sample.prompts sample.shelf

/-- A question to that desk, and a reply with a query. -/
def farAnswered : Desk × List DeskEffect :=
  farLookback.run [.ask 0 (.text "slow requests") sampleConfig,
    .answer 0 (.response 200 (Json.object (localReply "\x7b\x7d")).render.toUTF8) clock]

/-- **A desk opens with a lookback of more than two thousand years**, asks the model,
    and fails the call although the model has answered with a query. -/
theorem opened_farLookback :
    opened .usual (.text "800000d") (.int 20) none false sample.prompts sample.shelf =
      .ok farLookback ∧
    clock.calendar = true ∧
    (∀ filters limit, SearchRequest.build filters clock farLookback.rules.lookback limit =
      .error .dateRange) ∧
    (posts farAnswered.2).length = 1 ∧ farAnswered.1.outcome.query.isSome = true ∧
    farAnswered.1.outcome.errorMessage =
      some "Unexpected backend failure: date value out of range" := by
  refine ⟨?_, by decide, fun filters limit => ?_, by decide +kernel⟩
  · rw [opened_eq, Lookback.ofJson, read_farLookback]
    rfl
  · exact SearchRequest.build_of_not_fits (by decide) (by decide) filters limit

end Desk

end SpanQuest
