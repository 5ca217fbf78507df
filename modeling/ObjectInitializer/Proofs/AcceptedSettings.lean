/-
**Settings that were accepted stay accepted.**

Settings are checked twice: when they are made from arguments, and again by the conversion.  The
first check covers all that the second looks at, also for a memory limit that comes from a text,
with all the numerals that a text can be: an amount below zero, infinity or no number is refused,
and so is an amount that rounds to zero, since no limit may be below a kilobyte.  So a run under
settings that were made from arguments may fail in many ways, but not for its settings.

Nothing is assumed about the files, nor about what is read.

Main definitions:

* `Failure.IsConfiguration` — failures that are about settings;
* `Spares`, `Yields` — results without such a failure, and results of computations.

Main results:

* `Arguments.settings_eq_ok_iff` — the settings that are made from arguments;
* `yields_run` — **a run under valid settings does not fail for its settings**;
* `accepted_settings` — **what it means for arguments to be accepted**.
-/

import ObjectInitializer.Proofs.MemoryLimit
import ObjectInitializer.Proofs.OutputOnly

set_option relaxedAutoImplicit false
set_option autoImplicit false

namespace ObjectInitializer

/-! ### Settings from arguments -/

namespace Arguments

variable {arguments : Arguments} {settings : Settings} {limit : Nat} {text : String}

/-- The settings that are made from arguments are valid, and under the limit that is asked for. -/
theorem settings_eq_ok_iff : arguments.settings = .ok settings ↔
    ∃ limit, arguments.memoryLimitOrStandard = .ok limit ∧
      settings = arguments.settingsUnder limit ∧ settings.validate = .ok () := by
  cases hlimit : arguments.memoryLimitOrStandard with
  | error text => simp [Arguments.settings, hlimit]
  | ok limit =>
      rw [settings_eq hlimit]
      cases hflaw : (arguments.settingsUnder limit).flaw? with
      | none =>
          have hvalid := (Settings.validate_eq_ok_iff _).2 hflaw
          constructor
          · rintro ⟨⟩
            exact ⟨limit, rfl, rfl, hvalid⟩
          · rintro ⟨_, ⟨⟩, rfl, -⟩
            rfl
      | some flaw =>
          constructor
          · rintro ⟨⟩
          · rintro ⟨_, ⟨⟩, rfl, hvalid⟩
            rw [Settings.validate_eq_ok_iff, hflaw] at hvalid
            cases hvalid

/-- Arguments are refused for their settings only. -/
theorem settings_cases (arguments : Arguments) :
    (∃ text, arguments.settings = .error (.ofKind (.configuration text))) ∨
      ∃ settings, arguments.settings = .ok settings := by
  cases hlimit : arguments.memoryLimitOrStandard with
  | error text => exact .inl ⟨text, by rw [Arguments.settings, hlimit]⟩
  | ok limit =>
      rw [settings_eq hlimit]
      cases (arguments.settingsUnder limit).flaw? with
      | none => exact .inr ⟨_, rfl⟩
      | some flaw => exact .inl ⟨_, rfl⟩

/-- The limit that is asked for is one of 64 bits. -/
theorem le_greatest (h : arguments.memoryLimitOrStandard = .ok limit) :
    limit ≤ MemoryLimit.greatest := by
  rw [memoryLimitOrStandard] at h
  split at h
  · obtain ⟨numeral, unit, -, hamount⟩ := MemoryLimit.read_eq_ok_iff.1 h
    exact MemoryLimit.le_greatest_of_amount? hamount
  · cases h
    decide

/-- **A text that is accepted denotes amounts above zero, and nothing else.** -/
theorem denotes_of_settings (h : arguments.settings = .ok settings)
    (htext : arguments.memoryLimit = some text) :
    (∃ numeral unit, MemoryLimit.Denotes text numeral unit) ∧
      ∀ numeral unit, MemoryLimit.Denotes text numeral unit →
        ∃ value, numeral = .finite value ∧ value.negative = false ∧ 0 < value.coefficient := by
  obtain ⟨limit, hlimit, rfl, hvalid⟩ := settings_eq_ok_iff.1 h
  have hread : MemoryLimit.read text = .ok limit := by
    simp only [memoryLimitOrStandard, htext] at hlimit
    exact hlimit
  have hpos : 0 < limit := Nat.lt_of_lt_of_le (by decide) (Settings.le_memoryLimit hvalid)
  obtain ⟨numeral, unit, hdenotes, hamount⟩ := MemoryLimit.read_eq_ok_iff.1 hread
  refine ⟨⟨numeral, unit, hdenotes⟩, fun other unit' hother => ?_⟩
  -- whatever else the text denotes is the same amount
  have hsame : MemoryLimit.amount? other unit' = some limit := by
    rw [← MemoryLimit.readNormal?_of_denotes hother, MemoryLimit.readNormal?_of_denotes hdenotes,
      hamount]
  exact MemoryLimit.positive_of_amount? hsame hpos

end Arguments

/-! ### Results and their failures -/

/-- The failure is about settings. -/
def Failure.IsConfiguration (failure : Failure) : Prop :=
  ∃ text sources, failure = .conversion (.configuration text) sources

/-- If this is a failure, then it is not about settings. -/
def Spares {α : Type} (result : Except Failure α) : Prop :=
  ∀ failure, result = .error failure → ¬ failure.IsConfiguration

section Spares

variable {α β : Type} {x : Except Failure α} {f : α → Except Failure β} {failure : Failure}

theorem spares_ok (a : α) : Spares (.ok a : Except Failure α) := by
  rintro failure ⟨⟩

theorem spares_error (h : ¬ failure.IsConfiguration) :
    Spares (.error failure : Except Failure α) := by
  rintro _ ⟨⟩
  exact h

theorem spares_ofKind {kind : Failure.Kind} (h : ∀ text, kind ≠ .configuration text) :
    Spares (.error (.ofKind kind) : Except Failure α) := by
  refine spares_error ?_
  rintro ⟨text, sources, hkind⟩
  cases hkind
  exact h text rfl

theorem Spares.bind (hx : Spares x) (hf : ∀ a, Spares (f a)) : Spares (x >>= f) := by
  cases x with
  | error failure =>
      rintro _ ⟨⟩
      exact hx _ rfl
  | ok a => exact hf a

variable {settings : Settings}

theorem spares_checkSize (settings : Settings) (size : Option Nat) :
    Spares (Limits.checkSize settings size) := by
  intro failure herror
  obtain ⟨size, -, -, rfl⟩ := Limits.checkSize_eq_error_iff.1 herror
  rintro ⟨text, sources, ⟨⟩⟩

theorem spares_checkDepth (settings : Settings) (v : Json) :
    Spares (Limits.checkDepth settings v) := by
  intro failure herror
  obtain ⟨limit, -, -, rfl⟩ := Limits.checkDepth_eq_error_iff.1 herror
  rintro ⟨text, sources, ⟨⟩⟩

theorem spares_checkCompactSize (settings : Settings) (v : Json) :
    Spares (Limits.checkCompactSize settings v) := by
  intro failure herror
  obtain ⟨-, rfl⟩ := Limits.checkCompactSize_eq_error_iff.1 herror
  rintro ⟨text, sources, ⟨⟩⟩

/-- The second check of valid settings finds nothing. -/
theorem spares_checkValue (h : settings.validate = .ok ()) (v : Json) :
    Spares (checkValue settings v) := by
  have hcheck : checkSettings settings = .ok () := by rw [checkSettings, h]
  rw [checkValue, hcheck]
  exact (spares_ok ()).bind fun _ => (spares_checkDepth settings v).bind fun _ =>
    spares_checkCompactSize settings v

theorem spares_parsedValue (parsed : Except Json.ParseError Json) :
    Spares (parsedValue parsed) := by
  cases parsed with
  | ok v => exact spares_ok v
  | error error =>
      refine spares_error ?_
      rintro ⟨text, sources, ⟨⟩⟩

theorem spares_ofOsError (error : OsError) (path : Option Path) :
    Spares (.error (.ofOsError error path) : Except Failure α) := by
  refine spares_error ?_
  rintro ⟨text, sources, ⟨⟩⟩

end Spares

/-! ### Computations and their results -/

section Yields

variable {σ : Type} {α β : Type} {P : β → Prop} {Q : α → Prop}

/-- Whatever state the computation starts in, its result is one of these. -/
def Yields (P : α → Prop) (x : StateM σ α) : Prop :=
  ∀ s, P (x.run s).1

theorem yields_pure {b : β} (h : P b) : Yields P (pure b : StateM σ β) :=
  fun _ => h

theorem Yields.bind {x : StateM σ α} {f : α → StateM σ β} (hx : Yields Q x)
    (hf : ∀ a, Q a → Yields P (f a)) : Yields P (x >>= f) :=
  fun s => hf _ (hx s) _

/-- Of what is asked, nothing need be known. -/
theorem yields_bind {x : StateM σ α} {f : α → StateM σ β} (hf : ∀ a, Yields P (f a)) :
    Yields P (x >>= f) :=
  fun s => hf (x.run s).1 (x.run s).2

variable {settings : Settings}

theorem yields_convertTimed [Clock (StateM σ)] (h : settings.validate = .ok ()) (v : Json) :
    Yields Spares (convertTimed settings v : StateM σ (Except Failure Conversion)) := by
  rw [convertTimed]
  refine yields_bind fun start => ?_
  cases hcheck : checkValue settings v with
  | error failure => exact yields_pure (spares_error (spares_checkValue h v failure hcheck))
  | ok _ => exact yields_bind fun time => yields_pure (spares_ok _)

variable [Storage (StateM σ)]

theorem yields_input (arguments : Arguments) :
    Yields Spares (arguments.input : StateM σ (Except Failure Input)) := by
  rw [Arguments.input]
  by_cases hinput : arguments.fromStandardInput = true
  · rw [if_pos hinput]
    exact yields_pure (spares_ok _)
  · rw [if_neg hinput]
    cases arguments.inputFile with
    | none => exact yields_pure (spares_ofKind fun _ => by simp)
    | some path =>
        dsimp only
        by_cases hpath : path = ""
        · rw [if_pos hpath]
          exact yields_pure (spares_ofKind fun _ => by simp)
        · rw [if_neg hpath]
          refine yields_bind fun there => ?_
          cases there with
          | true => exact yields_pure (spares_ok _)
          | false => exact yields_pure (spares_ofKind fun _ => by simp)

theorem yields_load (input : Input) (settings : Settings) :
    Yields Spares (input.load settings : StateM σ (Except Failure Json)) := by
  rw [Input.load]
  refine yields_bind fun missing => ?_
  cases missing with
  | some path => exact yields_pure (spares_ofKind fun _ => by simp)
  | none =>
      refine yields_bind fun size => ?_
      cases hsize : Limits.checkSize settings size with
      | error failure =>
          exact yields_pure (spares_error (spares_checkSize settings size failure hsize))
      | ok _ => exact yields_bind fun parsed => yields_pure (spares_parsedValue parsed)

theorem yields_convertInput [Clock (StateM σ)] (h : settings.validate = .ok ()) (input : Input) :
    Yields Spares (convertInput settings input : StateM σ (Except Failure Conversion)) := by
  rw [convertInput]
  refine (yields_load input settings).bind fun loaded hloaded => ?_
  cases loaded with
  | error failure => exact yields_pure (spares_error (hloaded failure rfl))
  | ok v => exact yields_convertTimed h v

theorem yields_writeOutput (file : Path) (content : String) :
    Yields Spares (writeOutput file content : StateM σ (Except Failure Unit)) := by
  rw [writeOutput_eq]
  refine yields_bind fun made => ?_
  cases made with
  | error error => exact yields_pure (spares_ofOsError error _)
  | ok _ =>
      refine yields_bind fun written => ?_
      cases written with
      | error error => exact yields_pure (spares_ofOsError error _)
      | ok _ => exact yields_pure (spares_ok ())

theorem yields_deliver (arguments : Arguments) (conversion : Conversion) :
    Yields (fun outcome => Spares outcome.result)
      (arguments.deliver conversion : StateM σ Outcome) := by
  rw [Arguments.deliver]
  split
  · exact yields_pure (spares_ok conversion)
  refine (yields_writeOutput _ _).bind fun written hwritten => ?_
  cases written with
  | error failure => exact yields_pure (spares_error (hwritten failure rfl))
  | ok _ => exact yields_pure (spares_ok conversion)

/-- **A run under valid settings does not fail for its settings**, whatever it reads. -/
theorem yields_run [Clock (StateM σ)] (h : settings.validate = .ok ()) (arguments : Arguments) :
    Yields (fun outcome => Spares outcome.result)
      (arguments.run settings : StateM σ Outcome) := by
  rw [Arguments.run]
  refine (yields_input arguments).bind fun input hinput => ?_
  cases input with
  | error failure => exact yields_pure (spares_error (hinput failure rfl))
  | ok input =>
      refine (yields_convertInput h input).bind fun converted hconverted => ?_
      cases converted with
      | error failure => exact yields_pure (spares_error (hconverted failure rfl))
      | ok conversion => exact yields_deliver arguments conversion

end Yields

/-! ### Arguments that are accepted -/

/-- **What it means for arguments to be accepted.**

* Arguments are refused for their settings, or their settings are valid, with a memory limit of
  one kilobyte at least and of 64 bits at most.
* A memory limit that is accepted is a number with a unit or none, and the number is neither
  infinite nor zero nor below zero.
* No run under settings that were accepted fails for its settings, whatever holds the files and
  however long the conversion takes. -/
theorem accepted_settings (arguments : Arguments) :
    ((∃ text, arguments.settings = .error (.ofKind (.configuration text))) ∨
      ∃ settings, arguments.settings = .ok settings ∧ settings.validate = .ok () ∧
        1024 ≤ settings.memoryLimit ∧ settings.memoryLimit ≤ 2 ^ 64 - 1) ∧
    (∀ settings text, arguments.settings = .ok settings → arguments.memoryLimit = some text →
      (∃ numeral unit, MemoryLimit.Denotes text numeral unit) ∧
        ∀ numeral unit, MemoryLimit.Denotes text numeral unit →
          ∃ value, numeral = .finite value ∧ value.negative = false ∧ 0 < value.coefficient) ∧
    ∀ settings, arguments.settings = .ok settings →
      ∀ (σ : Type) [Storage (StateM σ)] (time : Nat) (s : σ) (text : String)
          (sources : List String),
        (arguments.runIn settings time s).1.result ≠
          .error (.conversion (.configuration text) sources) := by
  refine ⟨?_, fun settings text => Arguments.denotes_of_settings, ?_⟩
  · rcases arguments.settings_cases with hrefused | ⟨settings, h⟩
    · exact .inl hrefused
    · obtain ⟨limit, hlimit, rfl, hvalid⟩ := Arguments.settings_eq_ok_iff.1 h
      exact .inr ⟨_, h, hvalid, Settings.le_memoryLimit hvalid, Arguments.le_greatest hlimit⟩
  · intro settings h σ _ time s text sources herror
    obtain ⟨limit, -, -, hvalid⟩ := Arguments.settings_eq_ok_iff.1 h
    let _ : Clock (StateM σ) := .taking time
    exact yields_run hvalid arguments s _ herror ⟨text, sources, rfl⟩

/-- An amount below zero rounds to zero if it is close enough, and is refused as one that is too
small. -/
example :
    ({ Arguments.standard with memoryLimit := some "-1e-400" } : Arguments).settings =
      .error (.ofKind (.configuration "Memory limit must be at least 1KB")) := by
  decide +kernel

/-- Two kilobytes, written with an exponent, and a document on standard input. -/
theorem accepted_settings_two_kilobytes :
    let text := " 2e0 kb"
    let arguments : Arguments :=
      { Arguments.standard with fromStandardInput := true, memoryLimit := some text }
    let settings : Settings := { Settings.standard with memoryLimit := 2048 }
    let world : World := ⟨⟨[], []⟩, "[1".toUTF8⟩
    arguments.settings = .ok settings ∧ settings.validate = .ok () ∧
      (∃ numeral unit, MemoryLimit.Denotes text numeral unit) ∧
      (arguments.runIn settings 1000000 world).1.result ≠
        .error (.conversion (.configuration Settings.Flaw.memoryLimitTooSmall.message) []) := by
  intro text arguments settings world
  have hsettings : arguments.settings = .ok settings := by decide +kernel
  obtain ⟨-, htext, hrun⟩ := accepted_settings arguments
  exact ⟨hsettings, by decide, (htext settings text hsettings rfl).1,
    hrun settings hsettings World 1000000 world _ _⟩

end ObjectInitializer
