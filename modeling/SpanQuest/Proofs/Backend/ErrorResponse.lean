/-
  What an error response is told as.

  A response that is no success is a failure of the protocol, or tells that the
  local backend lacks its model.  Its message is the reason that the body gives,
  and what the status says where the body gives none, whatever the body is.  Only
  an integer that is too long in the body of the local backend leads elsewhere:
  the hosted backend takes such a body for one that gives no reason, but the local
  one does not.

  * `Json.display_ne_empty`: what counts as present is not shown as nothing;
  * `Adapter.exists_reasonOf`: the reason that a body gives;
  * `Local.lacksModel_iff`: the messages that tell of a model that is missing;
  * `Adapter.errorResponse_outcomes`: all of it, for every adapter and body.
-/
import SpanQuest.Proofs.Backend.Response
import SpanQuest.Proofs.Json.Extent
import SpanQuest.Proofs.Text.LetterCase

namespace SpanQuest

/-! ## What a value is shown as -/

theorem Decimal.write_ne_nil (layout : Decimal.Layout) (d : Decimal) : d.write layout ≠ [] := by
  unfold Decimal.write
  dsimp only
  split
  · split
    · have hdigits : decimalDigits d.digits ≠ [] := Nat.toDigits_ne_nil
      simp [hdigits]
    · split <;> simp
  · simp

theorem Double.text_ne_nil (x : Double) : x.text.toList ≠ [] := by
  rw [Double.text, String.toList_ofList]
  cases x with
  | nan => exact List.cons_ne_nil _ _
  | infinite negative => cases negative <;> exact List.cons_ne_nil _ _
  | finite negative m e =>
    cases negative with
    | false => exact Decimal.write_ne_nil _ _
    | true => exact List.cons_ne_nil _ _

namespace Json

theorem inspectChars_ne_nil (v : Json) : inspectChars v ≠ [] := by
  cases v with
  | null => decide
  | bool b => cases b <;> decide
  | int n =>
    have hdigits : decimalDigits n.natAbs ≠ [] := Nat.toDigits_ne_nil
    unfold inspectChars
    split
    · exact List.cons_ne_nil _ _
    · exact hdigits
  | double x => exact Double.text_ne_nil x
  | text s => simp [inspectChars, Text.quotedChars]
  | array items => cases items <;> simp [inspectChars]
  | object members => cases members <;> simp [inspectChars]

/-- **What counts as present is not shown as nothing.** -/
theorem display_ne_empty {v : Json} (h : v.isTruthy = true) : v.display.isEmpty = false := by
  by_contra hempty
  rw [Bool.not_eq_false, String.isEmpty_iff] at hempty
  by_cases htext : ∃ s, v = .text s
  · obtain ⟨s, rfl⟩ := htext
    cases hempty
    cases h
  · have hinspect : v.display = v.inspect := by
      cases v with
      | text s => exact absurd ⟨s, rfl⟩ htext
      | _ => rfl
    rw [hinspect, inspect, ← String.toList_inj, String.toList_ofList] at hempty
    exact inspectChars_ne_nil v hempty

end Json

namespace Backend

/-! ## The reason that a body gives -/

/-- The body of the hosted backend gives the reason: it is an object whose error is
    an object with a message that counts as present. -/
def Hosted.Explains (body : ByteArray) (reason : String) : Prop :=
  ∃ members error, Json.readBytes? body = some (.object members) ∧
    (Json.object members).member "error" = .object error ∧
    ((Json.object error).member "message").isTruthy = true ∧
    reason = ((Json.object error).member "message").display

/-- The body of the local backend gives the reason: its text is an object with an
    error that counts as present. -/
def Local.Explains (body : ByteArray) (reason : String) : Prop :=
  ∃ members, Json.read (Text.fromUtf8Lossy body) = .ok (.object members) ∧
    ((Json.object members).member "error").isTruthy = true ∧
    reason = ((Json.object members).member "error").display

theorem shown_eq_some_iff {v : Json} {reason : String} :
    (if v.isTruthy then some v.display else none) = some reason ↔
      v.isTruthy = true ∧ reason = v.display := by
  cases v.isTruthy with
  | true => simp [eq_comm]
  | false => simp

theorem Hosted.reasonOf_eq_some_iff {body : ByteArray} {reason : String} :
    Hosted.reasonOf (Json.readBytes? body) = some reason ↔ Hosted.Explains body reason := by
  constructor
  · intro h
    unfold Hosted.reasonOf at h
    split at h
    · cases h
    · next v hread =>
      split at h
      · next error herror =>
        obtain ⟨hmessage, rfl⟩ := shown_eq_some_iff.1 h
        cases v with
        | object members => exact ⟨members, error, hread, herror, hmessage, rfl⟩
        | _ => cases herror
      · cases h
  · rintro ⟨members, error, hread, herror, hmessage, rfl⟩
    unfold Hosted.reasonOf
    rw [hread]
    dsimp only
    rw [herror]
    exact shown_eq_some_iff.2 ⟨hmessage, rfl⟩

theorem Local.reasonOf_eq_some_iff {body : ByteArray} {reason : String} :
    Local.reasonOf (Text.fromUtf8Lossy body) = .ok (some reason) ↔ Local.Explains body reason := by
  constructor
  · intro h
    unfold Local.reasonOf at h
    split at h
    · cases h
    · cases h
    · next v hread =>
      obtain ⟨herror, rfl⟩ := shown_eq_some_iff.1 (Except.ok.inj h)
      cases v with
      | object members => exact ⟨members, hread, herror, rfl⟩
      | _ => cases herror
  · rintro ⟨members, hread, herror, rfl⟩
    unfold Local.reasonOf
    rw [hread]
    exact congrArg Except.ok (shown_eq_some_iff.2 ⟨herror, rfl⟩)

/-! ## Messages that tell of a model that is missing -/

theorem Local.contains_iff {part cs : List Char} : Local.contains part cs = true ↔ part <:+: cs := by
  induction cs with
  | nil => rw [Local.contains, List.isEmpty_iff, List.infix_nil]
  | cons c cs ih =>
    rw [Local.contains, Bool.or_eq_true, List.isPrefixOf_iff_prefix, List.infix_cons_iff, ih]

/-- **The message tells that the model is not installed**: both parts stand in it,
    in letters of either case. -/
theorem Local.lacksModel_iff {message : String} :
    Local.lacksModel message = true ↔
      "model".toList <:+: Text.lower message.toList ∧
        "not found".toList <:+: Text.lower message.toList := by
  rw [Text.infix_lower_iff (by decide) (by decide), Text.infix_lower_iff (by decide) (by decide),
    Local.lacksModel, Bool.and_eq_true, Local.contains_iff, Local.contains_iff]

namespace Adapter

variable {a : Adapter} {status : Int} {body : ByteArray}

/-- The body of an error response gives the reason, as its backend has it. -/
def Explains (a : Adapter) (body : ByteArray) (reason : String) : Prop :=
  match a.protocol with
  | .hosted .. => Hosted.Explains body reason
  | .ollama => Local.Explains body reason

/-- The body of the local backend has an integer of `count` digits, more than one may
    have, where a value is read. -/
def Overlong (a : Adapter) (body : ByteArray) (count : Nat) : Prop :=
  a.protocol = .ollama ∧ Json.read (Text.fromUtf8Lossy body) = .error (.tooManyDigits count)

/-- The message of an error response, with the reason that its body gives, if any:
    that reason, else what the status says. -/
inductive Displays (a : Adapter) (status : Int) (body : ByteArray) : Option String → String → Prop
  | reason {reason : String} (h : a.Explains body reason) :
      Displays a status body (some reason) reason
  | status (h : ∀ reason, ¬ a.Explains body reason) :
      Displays a status body none (statusLine status)

/-- The message tells that the local backend lacks its model. -/
def LacksModel (a : Adapter) (message : String) : Prop :=
  a.protocol = .ollama ∧ "model".toList <:+: Text.lower message.toList ∧
    "not found".toList <:+: Text.lower message.toList

theorem reasonOf_eq_some_iff {reason : String} :
    a.reasonOf body = .ok (some reason) ↔ a.Explains body reason := by
  unfold Adapter.reasonOf Explains
  cases a.protocol with
  | hosted key maxTokens =>
    rw [Except.ok.injEq]
    exact Hosted.reasonOf_eq_some_iff
  | ollama => exact Local.reasonOf_eq_some_iff

theorem Explains.isEmpty_eq_false {reason : String} (h : a.Explains body reason) :
    reason.isEmpty = false := by
  unfold Explains at h
  split at h
  · obtain ⟨members, error, -, -, hmessage, rfl⟩ := h
    exact Json.display_ne_empty hmessage
  · obtain ⟨members, -, herror, rfl⟩ := h
    exact Json.display_ne_empty herror

theorem reasonOf_of_overlong {count : Nat} (h : a.Overlong body count) :
    a.reasonOf body = .error (.digitLimit count) := by
  obtain ⟨hlocal, hread⟩ := h
  unfold Adapter.reasonOf
  rw [hlocal]
  dsimp only
  rw [Local.reasonOf, hread]

/-- **The reason that a body gives**, and the message that is displayed for it. -/
theorem exists_reasonOf (h : ∀ count, ¬ a.Overlong body count) (status : Int) :
    ∃ reason, a.reasonOf body = .ok reason ∧
      a.Displays status body reason (ClientConfig.orElseText reason (statusLine status)) := by
  rcases hreason : a.reasonOf body with f | _ | reason
  · obtain ⟨hlocal, count, hread⟩ := reasonOf_eq_error_iff.1 ⟨f, hreason⟩
    exact absurd ⟨hlocal, hread⟩ (h count)
  · refine ⟨none, rfl, .status ?_⟩
    intro reason hexplains
    rw [reasonOf_eq_some_iff.2 hexplains] at hreason
    cases hreason
  · have hexplains := reasonOf_eq_some_iff.1 hreason
    have hmessage : ClientConfig.orElseText (some reason) (statusLine status) = reason := by
      rw [ClientConfig.orElseText, hexplains.isEmpty_eq_false]
      rfl
    refine ⟨some reason, rfl, ?_⟩
    rw [hmessage]
    exact .reason hexplains

theorem failureOf_of_lacksModel {reason : Option String}
    (h : a.LacksModel (ClientConfig.orElseText reason (statusLine status))) :
    a.failureOf status reason = .notInstalled a.model (.int status) (.ofOption reason) := by
  obtain ⟨hlocal, hlacks⟩ := h
  unfold Adapter.failureOf
  dsimp only
  rw [hlocal]
  exact if_pos (Local.lacksModel_iff.2 hlacks)

theorem failureOf_of_not_lacksModel {reason : Option String}
    (h : ¬ a.LacksModel (ClientConfig.orElseText reason (statusLine status))) :
    a.failureOf status reason =
      .protocol (a.backendName ++ " API error: " ++
        ClientConfig.orElseText reason (statusLine status)) (.int status) (.ofOption reason) := by
  unfold Adapter.failureOf
  dsimp only
  rw [if_neg]
  · rfl
  · intro hlacking
    split at hlacking
    · cases hlacking
    · next hlocal => exact h ⟨hlocal, Local.lacksModel_iff.1 hlacking⟩

theorem receive_of_overlong (haddress : a.addressFault? = none)
    (hstatus : isSuccess status = false) {count : Nat} (h : a.Overlong body count) :
    a.receive .fresh (.response status body) = .error (.fault (.digitLimit count)) := by
  rw [Gateway.receive_of_not_success haddress hstatus, reasonOf_of_overlong h]

/-- **What an error response is told as**, whatever its body is: as a model that is
    missing, if the message tells that the local backend lacks its model, and else
    as a failure of the protocol; both with the status and with the reason that the
    body gives.  The one exception is a body of the local backend with an integer
    that is too long. -/
theorem errorResponse_outcomes (haddress : a.addressFault? = none)
    (hstatus : isSuccess status = false) (body : ByteArray) :
    ((∀ count, ¬ a.Overlong body count) →
      ∃ reason message, a.Displays status body reason message ∧
        (a.LacksModel message → a.receive .fresh (.response status body) =
          .error (.failure (.notInstalled a.model (.int status) (.ofOption reason)))) ∧
        (¬ a.LacksModel message → a.receive .fresh (.response status body) =
          .error (.failure (.protocol (a.backendName ++ " API error: " ++ message) (.int status)
            (.ofOption reason))))) ∧
      ∀ count, a.Overlong body count →
        a.receive .fresh (.response status body) = .error (.fault (.digitLimit count)) := by
  refine ⟨fun h => ?_, fun count => receive_of_overlong haddress hstatus⟩
  obtain ⟨reason, hreason, hdisplays⟩ := exists_reasonOf h status
  refine ⟨reason, _, hdisplays, ?_, ?_⟩
  · intro hlacks
    rw [Gateway.receive_of_not_success haddress hstatus, hreason, ← failureOf_of_lacksModel hlacks]
  · intro hlacks
    rw [Gateway.receive_of_not_success haddress hstatus, hreason,
      ← failureOf_of_not_lacksModel hlacks]

/-- The adapter of the local backend with its defaults. -/
def plainLocal : Adapter :=
  .ollama (.text "llama2") ClientConfig.localUrl defaultTemperature

theorem addressFault?_plainLocal : plainLocal.addressFault? = none :=
  Gateway.addressFault?_eq_none (by decide +kernel)

/-- The body of an error with a text as its reason. -/
def explained (reason : String) : Json :=
  .object [("error", .text reason)]

theorem errorResponse_outcomes_missingModel :
    plainLocal.addressFault? = none ∧ isSuccess 404 = false ∧
      plainLocal.receive .fresh
          (.response 404 (explained "MODEL llama2 Not Found").render.toUTF8) =
        .error (.failure (.notInstalled (.text "llama2") (.int 404)
          (.text "MODEL llama2 Not Found"))) := by
  have hstatus : isSuccess 404 = false := by decide
  have hread : Json.read (Text.fromUtf8Lossy (explained "MODEL llama2 Not Found").render.toUTF8) =
      .ok (explained "MODEL llama2 Not Found") := by
    rw [Text.fromUtf8Lossy_toUTF8]
    exact Json.read_render (by decide)
  have hshort : ∀ count, ¬ plainLocal.Overlong
      (explained "MODEL llama2 Not Found").render.toUTF8 count := by
    rintro count ⟨-, hlong⟩
    rw [hread] at hlong
    cases hlong
  obtain ⟨⟨reason, message, hdisplays, hmissing, -⟩, -⟩ :=
    (errorResponse_outcomes addressFault?_plainLocal hstatus _).imp_left fun h => h hshort
  have hexplains : plainLocal.Explains (explained "MODEL llama2 Not Found").render.toUTF8
      "MODEL llama2 Not Found" := ⟨_, hread, rfl, rfl⟩
  refine ⟨addressFault?_plainLocal, hstatus, ?_⟩
  cases hdisplays with
  | status h => exact absurd hexplains (h _)
  | reason h =>
    obtain ⟨members, hobject, -, rfl⟩ := h
    cases hread.symm.trans hobject
    exact hmissing ⟨rfl, by decide +kernel⟩

/-- **An integer that is too long in the body of the local backend** is told as
    neither of the two, though the status is that of a failure. -/
theorem receive_overlongError :
    plainLocal.receive .fresh
        (.response 500 (Json.object [("error", .int (10 ^ 4300 : Nat))]).render.toUTF8) =
      .error (.fault (.digitLimit 4301)) := by
  have hread := Json.read_overlong "error" (not_short_pow (k := 4300) (by decide))
  rw [length_decimalDigits_pow] at hread
  refine receive_of_overlong addressFault?_plainLocal (by decide) ⟨rfl, ?_⟩
  rw [Text.fromUtf8Lossy_toUTF8, hread]

end Adapter

end Backend

end SpanQuest
