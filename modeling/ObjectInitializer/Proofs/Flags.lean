/-
**What is done, and what is said about it.**

Some arguments only change what a session says.  To see which, a run is taken apart: its *work* is
all that it does to files and all that it learns from them, and what it says is a function of the
work that touches no file.  The work does not depend on whether the measures are reported, on
whether the run is to be quiet or verbose, nor on the input file if the document is read from
standard input.

Any access to files is meant, and any state that it has: a file system, or whatever else answers.
The clock is apart from that state.  All that a run learns from it is how long the conversion took,
so that a session is followed for each such time, and two sessions need not have the same.

Main definitions:

* `Work` — what a run has done;
* `Arguments.work` — does it;
* `Arguments.tell` — says what has been done;
* `sessionIn` — a session in a state, with a conversion that takes a given time;
* `Clock.Apart` — clocks that leave the state alone;
* `SameButTime` — what two sessions have said, if they differ in the time at most.

Main results:

* `Arguments.run_eq_tell` — **a run is its work, and what is said about it**;
* `Arguments.work_timed` — the time that the conversion takes does not change the work;
* `exists_sessionIn_eq` — **by any clock, a session is one with a conversion that takes some time**;
* `sessionIn_agree`, `sessionIn_time` — what sessions with the same work have in common, and what
  sessions whose conversions take different times have;
* `session_flags` — **what presentation flags and ignored inputs leave alone, and what a printed
  statement is**.
-/

import ObjectInitializer.CommandLine.Session
import ObjectInitializer.Disk

set_option relaxedAutoImplicit false
set_option autoImplicit false

namespace ObjectInitializer

/-! ### Work -/

/-- What a run has done. -/
inductive Work where
  /-- It ended before anything was delivered. -/
  | refused (failure : Failure)
  /-- The statement was printed. -/
  | printed (conversion : Conversion)
  /-- The statement was to be written to the output file. -/
  | written (conversion : Conversion) (result : Except Failure Unit)

namespace Arguments

variable {m : Type → Type} [Monad m] [Storage m]

/-- The value of the document that the arguments ask for. -/
def load (arguments : Arguments) (settings : Settings) : m (Except Failure Json) := do
  match ← arguments.input with
  | .error failure => return .error failure
  | .ok input => input.load settings

/-- The conversion of that value, in the given time. -/
def answer (arguments : Arguments) (settings : Settings) (milliseconds : Nat) :
    m (Except Failure Conversion) := do
  match ← arguments.load settings with
  | .error failure => return .error failure
  | .ok v => return convert settings v milliseconds

/-- All that a run does to files and learns from them, if the conversion takes the given time. -/
def work (arguments : Arguments) (settings : Settings) (milliseconds : Nat) : m Work := do
  match ← arguments.answer settings milliseconds with
  | .error failure => return .refused failure
  | .ok conversion =>
    if arguments.print then return .printed conversion
    else return .written conversion (← writeOutput arguments.outputPath conversion.content)

/-- What a run says about its work. -/
def tell (arguments : Arguments) : Work → Outcome
  | .refused failure => ⟨.error failure, "", ""⟩
  | .printed conversion => ⟨.ok conversion, conversion.content, arguments.statistics conversion⟩
  | .written conversion result =>
    match result with
    | .error failure => ⟨.error failure, arguments.say startLine, ""⟩
    | .ok () =>
      ⟨.ok conversion, arguments.say startLine ++ arguments.say (doneLine arguments.outputPath),
        arguments.statistics conversion⟩

/-- What is said of a conversion that was delivered. -/
theorem deliver_eq_tell [LawfulMonad m] (arguments : Arguments) (conversion : Conversion) :
    (arguments.deliver conversion : m Outcome) =
      arguments.tell <$> do
        if arguments.print then return .printed conversion
        else
          return .written conversion (← writeOutput arguments.outputPath conversion.content) := by
  rw [deliver]
  split
  · simp [tell]
  · rw [map_bind]
    refine bind_congr fun result => ?_
    cases result with
    | error failure => simp [tell]
    | ok _ => simp [tell]

/-- The end of a run, from the answer that the conversion has given. -/
def conclude (arguments : Arguments) : Except Failure Conversion → m Outcome
  | .error failure => return ⟨.error failure, "", ""⟩
  | .ok conversion => arguments.deliver conversion

/-- A run loads the document, converts its value by the clock, and delivers the statement. -/
theorem run_eq_load [LawfulMonad m] [Clock m] (arguments : Arguments) (settings : Settings) :
    (arguments.run settings : m Outcome) =
      arguments.load settings >>= fun
        | .error failure => arguments.conclude (.error failure)
        | .ok v => convertTimed settings v >>= arguments.conclude := by
  rw [run, load, bind_assoc]
  refine bind_congr fun input => ?_
  cases input with
  | error failure => simp [conclude]
  | ok input =>
      refine (bind_assoc _ _ _).trans (bind_congr fun loaded => ?_)
      cases loaded with
      | error failure => simp [conclude]
      | ok v =>
          refine bind_congr fun answer => ?_
          cases answer <;> rfl

/-- In the time that the clock tells, a run has the answer for that time. -/
theorem run_eq_conclude [LawfulMonad m] (arguments : Arguments) (settings : Settings)
    (time : Nat) :
    letI : Clock m := .taking time
    (arguments.run settings : m Outcome) =
      arguments.answer settings (Clock.milliseconds time) >>= arguments.conclude := by
  let _ : Clock m := .taking time
  rw [run_eq_load, answer, bind_assoc]
  refine bind_congr fun loaded => ?_
  cases loaded with
  | error failure => simp
  | ok v => exact congrArg (· >>= _) (convertTimed_taking settings v time)

/-- **A run is its work, and what is said about it**, in the time that the clock tells. -/
theorem run_eq_tell [LawfulMonad m] (arguments : Arguments) (settings : Settings) (time : Nat) :
    letI : Clock m := .taking time
    (arguments.run settings : m Outcome) =
      arguments.tell <$> arguments.work settings (Clock.milliseconds time) := by
  rw [run_eq_conclude, work, map_bind]
  refine bind_congr fun answer => ?_
  cases answer with
  | error failure => simp [conclude, tell]
  | ok conversion => exact deliver_eq_tell arguments conversion

/-- The input file does not matter to the work if the document is read from standard input. -/
theorem work_standardInput {arguments : Arguments} (settings : Settings) (milliseconds : Nat)
    (hinput : arguments.fromStandardInput = true) (inputFile : Option Path) :
    (({ arguments with inputFile } : Arguments).work settings milliseconds : m Work) =
      arguments.work settings milliseconds := by
  simp only [work, answer, load, input, outputPath, hinput, if_true]

/-- Nor does it matter to what is said then. -/
theorem tell_standardInput {arguments : Arguments} (hinput : arguments.fromStandardInput = true)
    (inputFile : Option Path) (done : Work) :
    ({ arguments with inputFile } : Arguments).tell done = arguments.tell done := by
  cases done with
  | refused failure => rfl
  | printed conversion => rfl
  | written conversion result =>
      cases result with
      | error failure => rfl
      | ok _ =>
          simp only [tell, outputPath, hinput, if_true]
          rfl

end Arguments

/-! ### Time -/

/-- The work, had its conversion taken the given time. -/
def Work.timed (milliseconds : Nat) : Work → Work
  | .refused failure => .refused failure
  | .printed conversion => .printed (conversion.timed milliseconds)
  | .written conversion result => .written (conversion.timed milliseconds) result

/-- **The time that the conversion takes does not change the work**, which tells that time and is
the same otherwise. -/
theorem Arguments.work_timed {m : Type → Type} [Monad m] [LawfulMonad m] [Storage m]
    (arguments : Arguments) (settings : Settings) (milliseconds milliseconds' : Nat) :
    (arguments.work settings milliseconds' : m Work) =
      Work.timed milliseconds' <$> arguments.work settings milliseconds := by
  rw [work, answer, work, answer, map_bind, bind_assoc, bind_assoc]
  refine bind_congr fun loaded => ?_
  cases loaded with
  | error failure => simp [Work.timed]
  | ok v =>
      rw [pure_bind, pure_bind, convert_timed settings v milliseconds milliseconds']
      cases convert settings v milliseconds with
      | error failure => simp [Work.timed, Except.map]
      | ok conversion =>
          dsimp only [Except.map]
          split <;> simp [Work.timed, Conversion.timed]

/-- The time stands in one place of the report. -/
theorem Conversion.report_timed (conversion : Conversion) :
    ∃ before after : String, ∀ milliseconds,
      (conversion.timed milliseconds).report = before ++ toString milliseconds ++ after := by
  let front := [("input_size", toString conversion.inputSize),
    ("output_size", toString conversion.outputSize)]
  let back := [("render", reportObject "  " conversion.tally.reportMembers)]
  exact ⟨_, _, fun milliseconds => reportObject_around (List.cons_ne_nil _ _ : front ≠ [])
    (List.cons_ne_nil _ _ : back ≠ []) "" "processing_time_ms" (toString milliseconds)⟩

/-- What two sessions have said, if it is the same but for the times that their conversions took:
these are told, in one place, if the measures are reported. -/
def SameButTime (stats : Bool) (time time' : Nat) (text text' : String) : Prop :=
  text' = text ∨ stats = true ∧ ∃ before after : String,
    text = before ++ toString (Clock.milliseconds time) ++ after ∧
      text' = before ++ toString (Clock.milliseconds time') ++ after

theorem Arguments.statistics_timed (arguments : Arguments) (conversion : Conversion)
    (time time' : Nat) :
    SameButTime arguments.stats time time'
      (arguments.statistics (conversion.timed (Clock.milliseconds time)))
      (arguments.statistics (conversion.timed (Clock.milliseconds time'))) := by
  rw [statistics, statistics]
  cases arguments.stats with
  | false => exact .inl ((if_neg Bool.false_ne_true).trans (if_neg Bool.false_ne_true).symm)
  | true =>
      obtain ⟨before, after, hreport⟩ := conversion.report_timed
      refine .inr ⟨rfl, before, after ++ "\n", ?_, ?_⟩
      · rw [if_pos rfl, hreport, String.append_assoc]
      · rw [if_pos rfl, hreport, String.append_assoc]

/-! ### Sessions -/

theorem run_bind {σ α β : Type} (x : StateM σ α) (f : α → StateM σ β) (s : σ) :
    (x >>= f).run s = (f (x.run s).1).run (x.run s).2 := rfl

variable {σ : Type} [Storage (StateM σ)] {words words' : List String} {arguments other : Arguments}

/-- Whether the work was delivered as the arguments say. -/
def Work.Fits (print : Bool) : Work → Prop
  | .refused _ => True
  | .printed _ => print = true
  | .written _ _ => print = false

/-- The work in a state: the conversion, and then its delivery if there is one. -/
theorem Arguments.run_work (arguments : Arguments) (settings : Settings) (milliseconds : Nat)
    (s : σ) :
    (arguments.work settings milliseconds : StateM σ Work).run s =
      match (arguments.answer settings milliseconds :
        StateM σ (Except Failure Conversion)).run s with
      | (.error failure, s) => (.refused failure, s)
      | (.ok conversion, s) =>
        if arguments.print then (.printed conversion, s)
        else
          let written :=
            (writeOutput arguments.outputPath conversion.content : StateM σ _).run s
          (.written conversion written.1, written.2) := by
  rw [work, StateT.run_bind]
  obtain ⟨answer, s⟩ :=
    (arguments.answer settings milliseconds : StateM σ (Except Failure Conversion)).run s
  cases answer with
  | error failure => rfl
  | ok conversion => cases arguments.print <;> rfl

/-- The statement is printed if that is asked for, and written otherwise. -/
theorem Arguments.work_fits (arguments : Arguments) (settings : Settings) (milliseconds : Nat)
    (s : σ) :
    ((arguments.work settings milliseconds : StateM σ Work).run s).1.Fits arguments.print := by
  rw [run_work]
  obtain ⟨answer, s⟩ :=
    (arguments.answer settings milliseconds : StateM σ (Except Failure Conversion)).run s
  cases answer with
  | error failure => trivial
  | ok conversion => cases arguments.print <;> rfl

/-- A run in a state, with a conversion that takes the given time: its outcome, and the state that
it leaves. -/
def Arguments.runIn (arguments : Arguments) (settings : Settings) (time : Nat) (s : σ) :
    Outcome × σ :=
  letI : Clock (StateM σ) := .taking time
  (arguments.run settings : StateM σ Outcome).run s

/-- A session in a state, with a conversion that takes the given time: its report, and the state
that it leaves. -/
def sessionIn (words : List String) (time : Nat) (s : σ) : Report × σ :=
  letI : Clock (StateM σ) := .taking time
  (session words : StateM σ Report).run s

theorem Arguments.runIn_eq (arguments : Arguments) (settings : Settings) (time : Nat) (s : σ) :
    arguments.runIn settings time s =
      let done := (arguments.work settings (Clock.milliseconds time) : StateM σ Work).run s
      (arguments.tell done.1, done.2) := by
  rw [runIn, run_eq_tell]
  rfl

/-- A session is a run with a report, if the settings are accepted. -/
theorem sessionIn_eq (h : Usage.read words = .ok (.run arguments)) (time : Nat) (s : σ) :
    sessionIn words time s =
      match arguments.settings with
      | .error failure => (⟨failureCode, "", failureLine failure⟩, s)
      | .ok settings =>
        let (outcome, s) := arguments.runIn settings time s
        (outcome.report, s) := by
  let _ : Clock (StateM σ) := .taking time
  rw [sessionIn, session, h]
  show (arguments.session : StateM σ Report).run s = _
  rw [Arguments.session]
  cases arguments.settings <;> rfl

/-! ### Clocks -/

/-- A clock apart from the state: to ask it changes nothing. -/
class Clock.Apart (σ : Type) [Clock (StateM σ)] : Prop where
  now : ∀ s : σ, ((Clock.now : StateM σ Nat).run s).2 = s
  since : ∀ (reading : Nat) (s : σ), ((Clock.since reading : StateM σ Nat).run s).2 = s

instance : Clock.Apart World where
  now _ := rfl
  since _ _ := rfl

section Apart

variable [Clock (StateM σ)] [Clock.Apart σ]

omit [Storage (StateM σ)] in
theorem exists_convertTimed_eq (settings : Settings) (v : Json) (s : σ) :
    ∃ time, (convertTimed settings v : StateM σ (Except Failure Conversion)).run s =
      (convert settings v (Clock.milliseconds time), s) := by
  let start := ((Clock.now : StateM σ Nat).run s).1
  refine ⟨((Clock.since start : StateM σ Nat).run s).1, ?_⟩
  rw [convertTimed, run_bind, Clock.Apart.now, convert]
  cases checkValue settings v with
  | error failure => rfl
  | ok =>
      show StateT.run (bind _ _) s = _
      rw [run_bind, Clock.Apart.since]
      rfl

/-- **A run by any clock apart from the state** is one with a conversion that takes some time, and
that time is all that matters of the clock. -/
theorem Arguments.exists_runIn_eq (arguments : Arguments) (settings : Settings) (s : σ) :
    ∃ time, (arguments.run settings : StateM σ Outcome).run s =
      arguments.runIn settings time s := by
  simp only [runIn, run_eq_load, run_bind]
  obtain ⟨loaded, s⟩ := (arguments.load settings : StateM σ (Except Failure Json)).run s
  cases loaded with
  | error failure => exact ⟨0, rfl⟩
  | ok v =>
      obtain ⟨time, htime⟩ := exists_convertTimed_eq settings v s
      refine ⟨time, ?_⟩
      dsimp only
      rw [run_bind, run_bind, htime, convertTimed_taking]
      rfl

/-- So is a session. -/
theorem exists_sessionIn_eq (words : List String) (s : σ) :
    ∃ time, (session words : StateM σ Report).run s = sessionIn words time s := by
  simp only [sessionIn, session]
  cases Usage.read words with
  | error problem => exact ⟨0, rfl⟩
  | ok request =>
  cases request with
  | version => exact ⟨0, rfl⟩
  | help => exact ⟨0, rfl⟩
  | run arguments =>
      simp only [Arguments.session]
      cases arguments.settings with
      | error failure => exact ⟨0, rfl⟩
      | ok settings =>
          obtain ⟨time, htime⟩ := arguments.exists_runIn_eq settings s
          refine ⟨time, ?_⟩
          dsimp only
          rw [run_bind, run_bind, htime]
          rfl

end Apart

/-! ### Sessions with the same work -/

/-- **Sessions with the same work** leave the same state, and agree on all that is said alike about
it. -/
theorem sessionIn_agree {β : Type} (h : Usage.read words = .ok (.run arguments))
    (hother : Usage.read words' = .ok (.run other))
    (hsettings : other.settings = arguments.settings)
    (hwork : ∀ settings milliseconds,
      (other.work settings milliseconds : StateM σ Work) = arguments.work settings milliseconds)
    (view : Report → β)
    (hview : ∀ done : Work, done.Fits arguments.print →
      view (other.tell done).report = view (arguments.tell done).report) (time : Nat) (s : σ) :
    view (sessionIn words' time s).1 = view (sessionIn words time s).1 ∧
      (sessionIn words' time s).2 = (sessionIn words time s).2 := by
  rw [sessionIn_eq h, sessionIn_eq hother, hsettings]
  cases arguments.settings with
  | error failure => exact ⟨rfl, rfl⟩
  | ok settings =>
      simp only [Arguments.runIn_eq, hwork]
      exact ⟨hview _ (arguments.work_fits settings _ s), trivial⟩

/-! ### What is said -/

/-- The exit code tells whether the run succeeded. -/
theorem Outcome.code_report (outcome : Outcome) :
    (outcome.report.code = successCode ↔ ∃ conversion, outcome.result = .ok conversion) ∧
      (outcome.report.code = successCode ∨ outcome.report.code = failureCode) := by
  rw [report]
  cases outcome.result with
  | error failure => simp [successCode, failureCode]
  | ok conversion => simp

/-- What a run writes to standard output is what its outcome says, or nothing if it failed. -/
theorem Outcome.out_report (outcome : Outcome) : outcome.report.out = outcome.out := by
  rw [report]
  cases outcome.result <;> rfl

namespace Arguments

variable {done : Work}

/-- Whether the measures are reported, and how detailed the log is, is seen only in what goes to
standard error. -/
theorem tell_stats (arguments : Arguments) (stats verbose : Bool) (done : Work) :
    let r := (({ arguments with stats, verbose } : Arguments).tell done).report
    (r.code, r.out) = ((arguments.tell done).report.code, (arguments.tell done).report.out) := by
  rcases done with failure | conversion | ⟨conversion, failure | ⟨⟩⟩ <;> rfl

/-- Quiet runs are as successful as others. -/
theorem code_tell_quiet (arguments : Arguments) (quiet : Bool) (done : Work) :
    (({ arguments with quiet } : Arguments).tell done).report.code =
      (arguments.tell done).report.code := by
  rcases done with failure | conversion | ⟨conversion, failure | ⟨⟩⟩ <;> rfl

/-- The time that the conversion takes is seen only in the report of measures. -/
theorem tell_timed (arguments : Arguments) (done : Work) (time time' : Nat) :
    let r := (arguments.tell (done.timed (Clock.milliseconds time))).report
    let r' := (arguments.tell (done.timed (Clock.milliseconds time'))).report
    r'.code = r.code ∧ r'.out = r.out ∧ SameButTime arguments.stats time time' r.err r'.err := by
  rcases done with failure | conversion | ⟨conversion, failure | ⟨⟩⟩
  · exact ⟨rfl, rfl, .inl rfl⟩
  · exact ⟨rfl, rfl, arguments.statistics_timed conversion time time'⟩
  · exact ⟨rfl, rfl, .inl rfl⟩
  · exact ⟨rfl, rfl, arguments.statistics_timed conversion time time'⟩

/-- **A printed statement stands alone on standard output.** -/
theorem out_tell_of_print (hdone : done.Fits true) :
    (arguments.tell done).out =
      match (arguments.tell done).result with
      | .ok conversion => conversion.content
      | .error _ => "" := by
  cases done with
  | refused failure => rfl
  | printed conversion => rfl
  | written conversion result => cases hdone

theorem out_runIn_of_print (hprint : arguments.print = true) (settings : Settings) (time : Nat)
    (s : σ) :
    (arguments.runIn settings time s).1.out =
      match (arguments.runIn settings time s).1.result with
      | .ok conversion => conversion.content
      | .error _ => "" := by
  have hfits := arguments.work_fits settings (Clock.milliseconds time) s
  rw [hprint] at hfits
  rw [runIn_eq]
  exact out_tell_of_print hfits

/-- **A quiet run is silent**, unless it is to print the statement. -/
theorem out_tell_of_quiet (hquiet : arguments.quiet = true) (hdone : done.Fits false) :
    (arguments.tell done).out = "" := by
  cases done with
  | refused failure => rfl
  | printed conversion => cases hdone
  | written conversion result => cases result <;> simp [tell, say, hquiet]

end Arguments

/-! ### Two sessions -/

/-- **The time that the conversion takes is seen only in the report of measures**, in which one
number differs if it is reported otherwise. -/
theorem sessionIn_time (h : Usage.read words = .ok (.run arguments)) (time time' : Nat) (s : σ) :
    (sessionIn words time' s).1.code = (sessionIn words time s).1.code ∧
      (sessionIn words time' s).1.out = (sessionIn words time s).1.out ∧
      (sessionIn words time' s).2 = (sessionIn words time s).2 ∧
      SameButTime arguments.stats time time'
        (sessionIn words time s).1.err (sessionIn words time' s).1.err := by
  rw [sessionIn_eq h, sessionIn_eq h]
  cases arguments.settings with
  | error failure => exact ⟨rfl, rfl, rfl, .inl rfl⟩
  | ok settings =>
      simp only [Arguments.runIn_eq]
      rw [Arguments.work_timed arguments settings 0 (Clock.milliseconds time),
        Arguments.work_timed arguments settings 0 (Clock.milliseconds time')]
      obtain ⟨hcode, hout, herr⟩ := arguments.tell_timed
        ((arguments.work settings 0 : StateM σ Work).run s).1 time time'
      exact ⟨hcode, hout, rfl, herr⟩

/-- Only the time that is reported counts. -/
theorem sessionIn_congr_time (h : Usage.read words = .ok (.run arguments)) {time time' : Nat}
    (htime : Clock.milliseconds time' = Clock.milliseconds time) (s : σ) :
    sessionIn words time' s = sessionIn words time s := by
  rw [sessionIn_eq h, sessionIn_eq h]
  simp only [Arguments.runIn_eq, htime]

theorem sessionIn_stats (h : Usage.read words = .ok (.run arguments))
    (hother : Usage.read words' = .ok (.run other))
    (hsame : other = { arguments with stats := other.stats, verbose := other.verbose })
    (time : Nat) (s : σ) :
    (sessionIn words' time s).1.code = (sessionIn words time s).1.code ∧
      (sessionIn words' time s).1.out = (sessionIn words time s).1.out ∧
      (sessionIn words' time s).2 = (sessionIn words time s).2 := by
  obtain ⟨stats, verbose, rfl⟩ : ∃ stats verbose, other = { arguments with stats, verbose } :=
    ⟨_, _, hsame⟩
  obtain ⟨hview, hstate⟩ := sessionIn_agree h hother rfl (fun settings milliseconds => rfl)
    (fun r => (r.code, r.out)) (fun done _ => arguments.tell_stats stats verbose done) time s
  exact ⟨congrArg Prod.fst hview, congrArg Prod.snd hview, hstate⟩

theorem sessionIn_inputFile (h : Usage.read words = .ok (.run arguments))
    (hother : Usage.read words' = .ok (.run other))
    (hinput : arguments.fromStandardInput = true)
    (hsame : other = { arguments with inputFile := other.inputFile }) (time : Nat) (s : σ) :
    sessionIn words' time s = sessionIn words time s := by
  obtain ⟨inputFile, rfl⟩ : ∃ inputFile, other = { arguments with inputFile } := ⟨_, hsame⟩
  obtain ⟨hview, hstate⟩ := sessionIn_agree h hother rfl
    (fun settings milliseconds =>
      Arguments.work_standardInput settings milliseconds hinput inputFile) id
    (fun done _ => congrArg Outcome.report (Arguments.tell_standardInput hinput inputFile done))
    time s
  exact Prod.ext hview hstate

theorem sessionIn_quiet (h : Usage.read words = .ok (.run arguments))
    (hother : Usage.read words' = .ok (.run other))
    (hsame : other = { arguments with quiet := other.quiet }) (time : Nat) (s : σ) :
    (sessionIn words' time s).1.code = (sessionIn words time s).1.code ∧
      (sessionIn words' time s).2 = (sessionIn words time s).2 ∧
      (arguments.print = true →
        (sessionIn words' time s).1.out = (sessionIn words time s).1.out) := by
  obtain ⟨quiet, rfl⟩ : ∃ quiet, other = { arguments with quiet } := ⟨_, hsame⟩
  obtain ⟨hcode, hstate⟩ := sessionIn_agree h hother rfl (fun settings milliseconds => rfl)
    Report.code (fun done _ => arguments.code_tell_quiet quiet done) time s
  refine ⟨hcode, hstate, fun hprint => ?_⟩
  -- what was printed is the same, and nothing was said about an output file
  have hout (done : Work) (hdone : done.Fits arguments.print) :
      (({ arguments with quiet } : Arguments).tell done).report.out =
        (arguments.tell done).report.out := by
    cases done with
    | refused failure => rfl
    | printed conversion => rfl
    | written conversion result => cases hprint.symm.trans hdone
  exact (sessionIn_agree h hother rfl (fun settings milliseconds => rfl) Report.out hout time s).1

/-! ### One session -/

theorem sessionIn_code (h : Usage.read words = .ok (.run arguments)) (time : Nat) (s : σ) :
    ((sessionIn words time s).1.code = successCode ↔ ∃ settings conversion,
      arguments.settings = .ok settings ∧
        (arguments.runIn settings time s).1.result = .ok conversion) ∧
    ((sessionIn words time s).1.code = successCode ∨
      (sessionIn words time s).1.code = failureCode) := by
  rw [sessionIn_eq h]
  cases arguments.settings with
  | error failure => simp [successCode, failureCode]
  | ok settings => simpa using (arguments.runIn settings time s).1.code_report

theorem sessionIn_out_of_print (h : Usage.read words = .ok (.run arguments))
    (hprint : arguments.print = true) (time : Nat) (s : σ) :
    ((sessionIn words time s).1.code = successCode → ∃ settings conversion,
      arguments.settings = .ok settings ∧
        (arguments.runIn settings time s).1.result = .ok conversion ∧
        (sessionIn words time s).1.out = conversion.content) ∧
    ((sessionIn words time s).1.code = failureCode → (sessionIn words time s).1.out = "") := by
  rw [sessionIn_eq h]
  cases hsettings : arguments.settings with
  | error failure => simp [successCode, failureCode]
  | ok settings =>
      have hout := Arguments.out_runIn_of_print hprint settings time s
      have hreport := (arguments.runIn settings time s).1.code_report.1
      constructor
      · intro hcode
        obtain ⟨conversion, hresult⟩ := hreport.1 hcode
        refine ⟨settings, conversion, rfl, hresult, ?_⟩
        rw [Outcome.out_report, hout, hresult]
      · intro hcode
        rw [Outcome.out_report, hout]
        cases hresult : (arguments.runIn settings time s).1.result with
        | error failure => rfl
        | ok conversion => cases (hreport.2 ⟨conversion, hresult⟩).symm.trans hcode

theorem sessionIn_out_of_quiet (h : Usage.read words = .ok (.run arguments))
    (hquiet : arguments.quiet = true) (hprint : arguments.print = false) (time : Nat) (s : σ) :
    (sessionIn words time s).1.out = "" := by
  rw [sessionIn_eq h]
  cases arguments.settings with
  | error failure => rfl
  | ok settings =>
      have hfits := arguments.work_fits settings (Clock.milliseconds time) s
      rw [hprint] at hfits
      rw [Outcome.out_report, Arguments.runIn_eq]
      exact Arguments.out_tell_of_quiet hquiet hfits

/-- **What presentation flags and ignored inputs leave alone, and what a printed statement is.**
For any two command lines that ask for a run, in any state of whatever holds the files, and in
whatever times the two conversions take:

* the report of measures and the level of detail change neither exit code nor standard output nor
  the state;
* an input file changes nothing if the document is read from standard input and the times are the
  same as they are reported; if they are not, nothing changes but that one number on standard
  error, if the measures are reported;
* quiet runs have the same exit code and leave the same state, and have the same standard output if
  the statement is printed;
* a printed statement is all of standard output, and a quiet run that prints none leaves it empty;
* the exit code is zero if the settings are accepted and the run succeeds, and one otherwise. -/
theorem session_flags (h : Usage.read words = .ok (.run arguments))
    (hother : Usage.read words' = .ok (.run other)) (time time' : Nat) (s : σ) :
    (other = { arguments with stats := other.stats, verbose := other.verbose } →
      (sessionIn words' time' s).1.code = (sessionIn words time s).1.code ∧
        (sessionIn words' time' s).1.out = (sessionIn words time s).1.out ∧
        (sessionIn words' time' s).2 = (sessionIn words time s).2) ∧
    (arguments.fromStandardInput = true →
      other = { arguments with inputFile := other.inputFile } →
        (Clock.milliseconds time' = Clock.milliseconds time →
          sessionIn words' time' s = sessionIn words time s) ∧
        (sessionIn words' time' s).1.code = (sessionIn words time s).1.code ∧
        (sessionIn words' time' s).1.out = (sessionIn words time s).1.out ∧
        (sessionIn words' time' s).2 = (sessionIn words time s).2 ∧
        SameButTime arguments.stats time time'
          (sessionIn words time s).1.err (sessionIn words' time' s).1.err) ∧
    (other = { arguments with quiet := other.quiet } →
      (sessionIn words' time' s).1.code = (sessionIn words time s).1.code ∧
        (sessionIn words' time' s).2 = (sessionIn words time s).2 ∧
        (arguments.print = true →
          (sessionIn words' time' s).1.out = (sessionIn words time s).1.out)) ∧
    (arguments.print = true →
      ((sessionIn words time s).1.code = 0 → ∃ settings conversion,
        arguments.settings = .ok settings ∧
          (arguments.runIn settings time s).1.result = .ok conversion ∧
          (sessionIn words time s).1.out = conversion.content) ∧
      ((sessionIn words time s).1.code = 1 → (sessionIn words time s).1.out = "")) ∧
    (arguments.quiet = true → arguments.print = false → (sessionIn words time s).1.out = "") ∧
    ((sessionIn words time s).1.code = 0 ↔ ∃ settings conversion,
      arguments.settings = .ok settings ∧
        (arguments.runIn settings time s).1.result = .ok conversion) ∧
    ((sessionIn words time s).1.code = 0 ∨ (sessionIn words time s).1.code = 1) := by
  obtain ⟨hcode, hcodes⟩ := sessionIn_code h time s
  -- each pair of sessions is compared in the same time first
  obtain ⟨hcodeTime, houtTime, hstateTime, herrTime⟩ := sessionIn_time h time time' s
  refine ⟨fun hsame => ?_, fun hinput hsame => ?_, fun hsame => ?_,
    fun hprint => sessionIn_out_of_print h hprint time s,
    fun hquiet hprint => sessionIn_out_of_quiet h hquiet hprint time s, hcode, hcodes⟩
  · obtain ⟨hcode', hout', hstate'⟩ := sessionIn_stats h hother hsame time' s
    exact ⟨hcode'.trans hcodeTime, hout'.trans houtTime, hstate'.trans hstateTime⟩
  · rw [sessionIn_inputFile h hother hinput hsame time' s]
    exact ⟨fun htime => sessionIn_congr_time h htime s, hcodeTime, houtTime, hstateTime, herrTime⟩
  · obtain ⟨hcode', hstate', hout'⟩ := sessionIn_quiet h hother hsame time' s
    exact ⟨hcode'.trans hcodeTime, hstate'.trans hstateTime,
      fun hprint => (hout' hprint).trans houtTime⟩

/-- A document on standard input, with an input file named beside it, and with its measures asked
for. -/
theorem session_flags_standardInput :
    let world : World := ⟨⟨[], []⟩, "1".toUTF8⟩
    let words := ["--stdin", "--print", "--stats"]
    let named := ["--print", "--stdin", "-f=other.json", "--stats"]
    let unmeasured := ["--stdin", "--verbose", "--print"]
    sessionIn named 3999999 world = sessionIn words 3000000 world ∧
      (sessionIn unmeasured 7000000 world).1.code = (sessionIn words 3000000 world).1.code ∧
      (sessionIn unmeasured 7000000 world).1.out = (sessionIn words 3000000 world).1.out ∧
      (sessionIn unmeasured 7000000 world).2 = (sessionIn words 3000000 world).2 := by
  intro world words named unmeasured
  let arguments : Arguments :=
    { Arguments.standard with fromStandardInput := true, print := true, stats := true }
  have h : Usage.read words = .ok (.run arguments) := rfl
  have hnamed : Usage.read named =
      .ok (.run { arguments with inputFile := some "other.json" }) := rfl
  have hunmeasured : Usage.read unmeasured =
      .ok (.run { arguments with stats := false, verbose := true }) := rfl
  exact ⟨((session_flags h hnamed 3000000 3999999 world).2.1 rfl rfl).1 rfl,
    (session_flags h hunmeasured 3000000 7000000 world).1 rfl⟩

end ObjectInitializer
