/-
  The address that a configuration reports, and the one that is called.

  A configuration reports the address of the hosted backend, or for a local model its
  own without the slashes at its end, or the default if it has none (`Reports`).  The
  adapter takes the address that is reported, and looks once more for one that is
  missing: an address of slashes only is reported as none, and the default is called.

  * `dropTrailingSlashes_eq_iff`: a text without the slashes at its end;
  * `endpointFor_eq_iff`: the address that is reported;
  * `adapterOf_calls`: the one that is called, and when they are the same;
  * `adapterOf_slash`: an address that is a slash.
-/
import Mathlib.Data.List.DropRight
import SpanQuest.Proofs.Backend.Response
import SpanQuest.Proofs.Text.Ends

namespace SpanQuest

/-! ## Slashes -/

section

variable {s t : String}

/-- The text ends in no slash. -/
def Unslashed (s : String) : Prop :=
  s.toList.getLast? ≠ some '/'

instance (s : String) : Decidable (Unslashed s) :=
  inferInstanceAs (Decidable (_ ≠ _))

/-- `t` is the text without the slashes at its end. -/
structure WithoutSlashes (s t : String) : Prop where
  within : ∃ slashes, s.toList = t.toList ++ slashes ∧ ∀ c ∈ slashes, c = '/'
  unslashed : Unslashed t

/-- The text holds nothing but slashes. -/
def AllSlashes (s : String) : Prop :=
  ∀ c ∈ s.toList, c = '/'

theorem toList_dropTrailingSlashes (s : String) :
    (dropTrailingSlashes s).toList = s.toList.rdropWhile (· == '/') :=
  String.toList_ofList

/-- **The slashes at the end of a text are dropped.** -/
theorem dropTrailingSlashes_eq_iff : dropTrailingSlashes s = t ↔ WithoutSlashes s t := by
  rw [← String.toList_inj, toList_dropTrailingSlashes]
  constructor
  · intro h
    refine ⟨⟨s.toList.rtakeWhile (· == '/'), ?_, fun c hc => ?_⟩, fun hlast => ?_⟩
    · rw [← h, List.rdropWhile_append_rtakeWhile]
    · have hslash := List.mem_rtakeWhile_imp hc
      exact beq_iff_eq.1 hslash
    · rw [← h, List.rdropWhile, List.getLast?_reverse] at hlast
      exact absurd (Text.eq_false_of_head?_dropWhile hlast) (by decide)
  · rintro ⟨⟨slashes, hs, hslashes⟩, hlast⟩
    have hfirst (c : Char) (hc : t.toList.reverse.head? = some c) : (c == '/') = false := by
      rw [List.head?_reverse] at hc
      exact beq_eq_false_iff_ne.2 fun hslash => hlast (hslash ▸ hc)
    have hall (c : Char) (hc : c ∈ slashes.reverse) : (c == '/') = true :=
      beq_iff_eq.2 (hslashes c (List.mem_reverse.1 hc))
    rw [hs, List.rdropWhile, List.reverse_append, Text.dropWhile_append_of_first hall hfirst,
      List.reverse_reverse]

theorem unslashed_dropTrailingSlashes (s : String) : Unslashed (dropTrailingSlashes s) :=
  (dropTrailingSlashes_eq_iff.1 rfl).unslashed

theorem dropTrailingSlashes_of_unslashed (h : Unslashed s) : dropTrailingSlashes s = s :=
  dropTrailingSlashes_eq_iff.2 ⟨⟨[], (List.append_nil _).symm, by simp⟩, h⟩

theorem dropTrailingSlashes_eq_empty_iff : dropTrailingSlashes s = "" ↔ AllSlashes s := by
  rw [← String.toList_inj, toList_dropTrailingSlashes, String.toList_empty,
    List.rdropWhile_eq_nil_iff]
  simp [AllSlashes]

end

/-! ## The address that is reported -/

namespace ClientConfig

variable {config : ClientConfig} {m : ModelIdentity} {url : String}

/-- **The address that a configuration reports** for a model. -/
inductive Reports (config : ClientConfig) (m : ModelIdentity) : String → Prop where
  | hosted (hm : m.isHosted = true) : Reports config m hostedUrl
  | default (hm : m.isHosted = false) (hnone : config.baseUrl = none ∨ config.baseUrl = some "") :
      Reports config m localUrl
  | given {base url : String} (hm : m.isHosted = false) (hbase : config.baseUrl = some base)
      (hpresent : base ≠ "") (hurl : WithoutSlashes base url) : Reports config m url

/-- The address of the configuration for a local model is slashes only. -/
structure SlashesOnly (config : ClientConfig) (m : ModelIdentity) : Prop where
  isLocal : m.isHosted = false
  slashes : ∃ base, config.baseUrl = some base ∧ base ≠ "" ∧ AllSlashes base

theorem unslashed_hostedUrl : Unslashed hostedUrl := by
  decide

theorem unslashed_localUrl : Unslashed localUrl := by
  decide

theorem endpointFor_local (hm : m.isHosted = false) :
    config.endpointFor m = dropTrailingSlashes (orElseText config.baseUrl localUrl) :=
  if_neg (by simp [hm])

theorem endpointFor_local_cases (hm : m.isHosted = false) :
    (config.baseUrl = none ∨ config.baseUrl = some "") ∧ config.endpointFor m = localUrl ∨
      ∃ base, config.baseUrl = some base ∧ base ≠ "" ∧
        config.endpointFor m = dropTrailingSlashes base := by
  have hdefault := dropTrailingSlashes_of_unslashed unslashed_localUrl
  rw [endpointFor_local hm]
  rcases hbase : config.baseUrl with _ | base
  · exact .inl ⟨.inl rfl, hdefault⟩
  · by_cases hempty : base = ""
    · subst hempty
      exact .inl ⟨.inr rfl, hdefault⟩
    · refine .inr ⟨base, rfl, hempty, ?_⟩
      rw [orElseText, if_neg (by simpa using hempty)]

/-- **The address that is reported** is the one that the configuration says. -/
theorem endpointFor_eq_iff : config.endpointFor m = url ↔ Reports config m url := by
  constructor
  · rintro rfl
    cases hm : m.isHosted with
    | true =>
      rw [endpointFor, if_pos hm]
      exact .hosted hm
    | false =>
      obtain ⟨hnone, hurl⟩ | ⟨base, hbase, hpresent, hurl⟩ := endpointFor_local_cases hm
      · rw [hurl]
        exact .default hm hnone
      · exact .given hm hbase hpresent (dropTrailingSlashes_eq_iff.1 hurl.symm)
  · intro h
    cases h with
    | hosted hm => exact if_pos hm
    | default hm hnone =>
      obtain ⟨-, hurl⟩ | ⟨base, hbase, hpresent, -⟩ := endpointFor_local_cases hm
      · exact hurl
      · rw [hbase] at hnone
        simp [hpresent] at hnone
    | given hm hbase hpresent hurl =>
      obtain ⟨hnone, -⟩ | ⟨base, hbase', -, hurl'⟩ := endpointFor_local_cases hm
      · rw [hbase] at hnone
        simp [hpresent] at hnone
      · cases hbase.symm.trans hbase'
        exact hurl'.trans (dropTrailingSlashes_eq_iff.2 hurl)

theorem unslashed_endpointFor (config : ClientConfig) (m : ModelIdentity) :
    Unslashed (config.endpointFor m) := by
  cases hm : m.isHosted with
  | true =>
    rw [endpointFor, if_pos hm]
    exact unslashed_hostedUrl
  | false =>
    rw [endpointFor_local hm]
    exact unslashed_dropTrailingSlashes _

theorem endpointFor_eq_empty_iff : config.endpointFor m = "" ↔ SlashesOnly config m := by
  rw [endpointFor_eq_iff]
  constructor
  · intro h
    generalize hurl : "" = url at h
    cases h with
    | hosted hm => exact absurd hurl (by decide)
    | default hm hnone => exact absurd hurl (by decide)
    | given hm hbase hpresent hwithout =>
      subst hurl
      have hall := dropTrailingSlashes_eq_empty_iff.1 (dropTrailingSlashes_eq_iff.2 hwithout)
      exact ⟨hm, _, hbase, hpresent, hall⟩
  · rintro ⟨hm, base, hbase, hpresent, hall⟩
    exact .given hm hbase hpresent
      (dropTrailingSlashes_eq_iff.1 (dropTrailingSlashes_eq_empty_iff.2 hall))

end ClientConfig

/-! ## The address that is called -/

namespace Gateway

open ClientConfig

variable {config : ClientConfig} {m : ModelIdentity}

/-- The adapter calls the address that is reported, and the default where there is none. -/
theorem baseUrl_of_valid (h : validate config = .ok m) :
    ∃ adapter, adapterOf config = .ok adapter ∧ adapter.baseUrl =
      if config.endpointFor m = "" then localUrl else config.endpointFor m := by
  obtain ⟨hmodel, hcredential⟩ := validate_eq_ok h
  unfold adapterOf
  rw [hmodel]
  dsimp only
  cases hm : m.isHosted with
  | true =>
    obtain ⟨key, -, hadapter⟩ := adapterFor_hosted hm (hcredential hm)
    have hurl : config.endpointFor m = hostedUrl := if_pos hm
    rw [hadapter, hurl, if_neg (by decide)]
    exact ⟨_, rfl, dropTrailingSlashes_of_unslashed unslashed_hostedUrl⟩
  | false =>
    rw [adapterFor_local hm]
    refine ⟨_, rfl, ?_⟩
    unfold Backend.Adapter.ollama orElseText
    dsimp only
    by_cases hempty : config.endpointFor m = ""
    · rw [if_pos hempty, if_pos (by simpa using hempty)]
      exact dropTrailingSlashes_of_unslashed unslashed_localUrl
    · rw [if_neg hempty, if_neg (by simpa using hempty)]
      exact dropTrailingSlashes_of_unslashed (unslashed_endpointFor config m)

/-- **The address that is called** for a configuration that is valid: it ends in no
    slash, and is the one that the configuration reports, unless its address is slashes
    only.  Then none is reported, and the default is called. -/
theorem adapterOf_calls (h : validate config = .ok m) :
    ∃ adapter, adapterOf config = .ok adapter ∧
      Unslashed adapter.baseUrl ∧ Reports config m (config.endpointFor m) ∧
      (adapter.baseUrl = config.endpointFor m ↔ ¬ SlashesOnly config m) ∧
      (SlashesOnly config m → config.endpointFor m = "" ∧ adapter.baseUrl = localUrl) := by
  obtain ⟨adapter, hadapter, hurl⟩ := baseUrl_of_valid h
  refine ⟨adapter, hadapter, ?_, endpointFor_eq_iff.1 rfl, ?_, fun hslashes => ?_⟩
  · rw [hurl]
    split
    · exact unslashed_localUrl
    · exact unslashed_endpointFor config m
  · rw [hurl, ← endpointFor_eq_empty_iff]
    split
    · next hempty =>
      rw [hempty]
      exact iff_of_false (by decide) (not_not.2 rfl)
    · next hpresent => exact iff_of_true rfl hpresent
  · have hempty := endpointFor_eq_empty_iff.2 hslashes
    rw [hurl, if_pos hempty]
    exact ⟨hempty, rfl⟩

/-- A configuration for the local backend at an address. -/
def localAt (base : String) : ClientConfig where
  model := .known .ollama
  apiKey := none
  baseUrl := some base
  localModel := none

/-- An address with a slash at its end is called without it. -/
theorem adapterOf_calls_gpuBox :
    validate (localAt "http://gpu-box:11434/") = .ok .ollama ∧
    ∃ adapter, adapterOf (localAt "http://gpu-box:11434/") = .ok adapter ∧
      adapter.baseUrl = "http://gpu-box:11434" := by
  have hvalid : validate (localAt "http://gpu-box:11434/") = .ok .ollama := rfl
  have hreported : (localAt "http://gpu-box:11434/").endpointFor .ollama = "http://gpu-box:11434" :=
    endpointFor_eq_iff.2 (.given rfl rfl (by decide) ⟨⟨['/'], rfl, by simp⟩, by decide⟩)
  obtain ⟨adapter, hadapter, -, -, hsame, -⟩ := adapterOf_calls hvalid
  refine ⟨hvalid, adapter, hadapter, ?_⟩
  rw [← hreported, hsame, ← endpointFor_eq_empty_iff, hreported]
  decide

/-- **An address that is a slash**: none is reported, and the default is called. -/
theorem adapterOf_slash :
    validate (localAt "/") = .ok .ollama ∧
    (localAt "/").endpointFor .ollama = "" ∧
    ∃ adapter, adapterOf (localAt "/") = .ok adapter ∧
      adapter.baseUrl = "http://localhost:11434" := by
  have hreported : (localAt "/").endpointFor .ollama = "" :=
    endpointFor_eq_empty_iff.2 ⟨rfl, "/", rfl, by decide, by simp [AllSlashes]⟩
  have hvalid : validate (localAt "/") = .ok .ollama := rfl
  obtain ⟨adapter, hadapter, hurl⟩ := baseUrl_of_valid hvalid
  rw [if_pos hreported] at hurl
  exact ⟨hvalid, hreported, adapter, hadapter, hurl⟩

end Gateway

end SpanQuest
