import Recurrence.CommandLine.Run
import Recurrence.Proofs.CommandLine.Words
import Recurrence.Proofs.Expansion.Generated

namespace Recurrence

theorem Answer.success_ne_invalid : success ≠ invalid := by decide

theorem Answer.success_ne_refused : success ≠ refused := by decide

theorem Threshold.message?_of_isReached {threshold : Threshold} {count : Nat} {fault : Fault}
    (hfault : threshold.isReached count = .error fault) : fault.message? = none := by
  cases threshold with
  | unusable value =>
    cases hfault
    rfl
  | _ => cases hfault

theorem Threshold.message?_of_isAhead {threshold : Threshold} {count : Nat} {fault : Fault}
    (hfault : threshold.isAhead count = .error fault) : fault.message? = none := by
  unfold isAhead at hfault
  split at hfault
  · cases hfault
  · exact message?_of_isReached (map_eq_error_iff.1 hfault)

namespace Plan

variable {plan : Plan} {progress later : Progress} {fault : Fault}

theorem message?_of_isPastBound {cursor : Moment} (hfault : plan.isPastBound cursor = .error fault) :
    fault.message? = none := by
  unfold isPastBound at hfault
  split at hfault
  · cases hfault
  · split at hfault
    · cases hfault
    · cases hfault
      rfl

theorem message?_of_examine (hexamine : plan.examine progress = .error (.failed fault)) :
    fault.message? = none := by
  rw [examine_eq] at hexamine
  split at hexamine
  · next hahead =>
    cases hexamine
    exact Threshold.message?_of_isAhead hahead
  · cases hexamine
  · split at hexamine
    · next hpast =>
      cases hexamine
      exact message?_of_isPastBound hpast
    · cases hexamine
    · split at hexamine
      · cases hexamine
        rfl
      · cases hexamine

theorem message?_of_isCapped {found steps : Nat} (hfault : plan.isCapped found steps = .error fault) :
    fault.message? = none := by
  unfold isCapped at hfault
  cases hreached : plan.cap.isReached steps with
  | error cause =>
    rw [hreached] at hfault
    cases hfault
    exact Threshold.message?_of_isReached hreached
  | ok used =>
    rw [hreached] at hfault
    cases used with
    | false => cases hfault
    | true => exact Threshold.message?_of_isAhead hfault

theorem EndsWith.message? (hends : plan.EndsWith progress later (.failed fault)) :
    fault.message? = none := by
  cases hends with
  | refused hexamine => exact message?_of_examine hexamine
  | stuck _ _ => rfl
  | unusable _ _ _ _ hcap => exact message?_of_isCapped hcap

/-- No fault of a run has a wording. -/
theorem message?_of_run (hending : plan.run.ending = .failed fault) : fault.message? = none := by
  have hevery : ∀ fault, (plan.finish plan.begin).ending = .failed fault → fault.message? = none := by
    refine finish_induction (P := fun _ run => ∀ fault, run.ending = .failed fault → fault.message? = none)
      ?_ ?_ plan.begin
    · intro progress later ending hends fault hfailed
      dsimp only at hfailed
      rw [hfailed] at hends
      exact hends.message?
    · intro progress found later _ hrest
      exact hrest
  exact hevery fault hending

theorem message?_of_project {projection : Projection}
    (hfault : (plan.project projection).value = .error fault) : fault.message? = none := by
  rw [project_value] at hfault
  split at hfault
  · cases hfault
    rfl
  · exact message?_of_run (Run.all_eq_error_iff.1 (map_eq_error_iff.1 hfault))

end Plan

/-- A reference time or a zone cannot be made out. -/
def Projection.IsRefused (zones : ZoneDatabase) (zone clock : Value) : Prop :=
  (∃ cause, wallClockOf clock = .error cause) ∨ ∃ cause, zones.searchValue zone = .error cause

/-- An expansion of a rule with a start has a fault with a wording exactly if the reference time or the zone
    cannot be made out. -/
theorem Rule.expand_message?_iff {rule : Rule} {start : Moment} (hstart : rule.start = some start)
    {zones : ZoneDatabase} {zone clock : Value} {limit : Option Threshold} {bound : Option Moment}
    {limits : Limits} :
    (∃ fault message, (rule.expand zones zone clock limit bound limits).value = .error fault ∧
        fault.message? = some message) ↔ Projection.IsRefused zones zone clock := by
  unfold Projection.IsRefused
  cases hclock : wallClockOf clock with
  | error cause =>
    rw [expand_value_of_clock_error hclock]
    exact iff_of_true ⟨_, _, rfl, rfl⟩ (.inl ⟨cause, rfl⟩)
  | ok time =>
    cases hzone : zones.searchValue zone with
    | error cause =>
      rw [expand_value_of_zone_error hclock hzone]
      exact iff_of_true ⟨_, _, rfl, rfl⟩ (.inr ⟨cause, rfl⟩)
    | ok target =>
      obtain ⟨plan, hmake⟩ := Plan.exists_make hstart limit bound limits
      have hvalue : (rule.expand zones zone clock limit bound limits).value =
          (plan.project ⟨target, time⟩).value := by
        have hmade := @Projection.makeWith_value_of_faithful zones _ ZoneMemory.empty_faithful zone clock
        rw [make_of_zone hclock, hzone] at hmade
        simp only [expand, hmade, Except.map, hmake]
      rw [hvalue]
      refine iff_of_false ?_ (by simp)
      rintro ⟨fault, message, hfault, hmessage⟩
      rw [Plan.message?_of_project hfault] at hmessage
      cases hmessage

namespace Command

/-- What a command to expand answers under settings. -/
def expandAnswer (zones : ZoneDatabase) (settings : Settings) (text : String) (zone : Option String)
    (clock : String) (limit : Option Int) : Except Fault Answer :=
  ((Command.expand text zone clock limit).answer zones settings).value

section

variable {zones : ZoneDatabase} {settings : Settings} {text clock : String} {zone : Option String}
  {limit : Option Int}

theorem expandAnswer_of_error {cause : Text.NumeralError} (hread : Rule.ofZonedText text = .error cause) :
    expandAnswer zones settings text zone clock limit = .error (.numeral cause) := by
  simp only [expandAnswer, answer, withRule, hread]

theorem expandAnswer_of_none (hread : Rule.ofZonedText text = .ok none) :
    expandAnswer zones settings text zone clock limit = .ok ⟨Answer.invalid, ""⟩ := by
  simp only [expandAnswer, answer, withRule, hread]

/-- The outcome of an expansion as the command tells it. -/
def told : Except Fault (List String) → Except Fault Answer
  | .ok texts => .ok ⟨Answer.success, Answer.lines texts⟩
  | .error fault =>
    match fault.message? with
    | some _ => .ok ⟨Answer.refused, ""⟩
    | none => .error fault

theorem told_eq_ok_iff {outcome : Except Fault (List String)} {answered : Answer} :
    told outcome = .ok answered ↔
      (∃ texts, outcome = .ok texts ∧ answered = ⟨Answer.success, Answer.lines texts⟩) ∨
        (∃ fault message, outcome = .error fault ∧ fault.message? = some message) ∧
          answered = ⟨Answer.refused, ""⟩ := by
  cases outcome with
  | ok texts => simp [told, eq_comm]
  | error fault =>
    cases hmessage : fault.message? with
    | none => simp [told, hmessage]
    | some message => simp [told, hmessage, eq_comm]

theorem expandAnswer_of_some {rule : Rule} (hread : Rule.ofZonedText text = .ok (some rule)) :
    expandAnswer zones settings text zone clock limit =
      told (rule.expand zones (zoneFor settings zone) (.text clock) (limit.map .number) none
        settings.limits).value := by
  simp only [expandAnswer, answer, withRule, hread, expanded]
  generalize rule.expand zones (zoneFor settings zone) (.text clock) (limit.map .number) none
    settings.limits = result
  cases hvalue : result.value with
  | ok texts => simp only [told]
  | error fault =>
    simp only [told]
    cases fault.message? <;> rfl

end

/-- The answer of a command beside what is generated: the generated texts a line for each, or nothing with a
    code of its own where nothing is generated, or the fault that gets through. -/
inductive Agrees : Except Fault Answer → Except Fault (List String) → Prop where
  | printed (texts : List String) : Agrees (.ok ⟨Answer.success, Answer.lines texts⟩) (.ok texts)
  | silent {code : Nat} (hcode : code ≠ Answer.success) : Agrees (.ok ⟨code, ""⟩) (.ok [])
  | raised (fault : Fault) : Agrees (.error fault) (.error fault)

/-- Generating settles an outcome as the command tells it. -/
theorem agrees_of_settles {zone : Value} {outcome : Except Fault (List String)}
    {generated : Reported (Except Fault (List String))} (hsettles : Settles zone outcome generated) :
    Agrees (told outcome) generated.value := by
  cases hsettles with
  | given => exact .printed _
  | warned hmessage hnone hwarned =>
    rw [hnone]
    simp only [told, hmessage]
    exact .silent (by decide)
  | raised hmessage =>
    simp only [told, hmessage]
    exact .raised _

/-- Without a limit the command agrees with generating. -/
theorem agrees_generate (zones : ZoneDatabase) (settings : Settings) (text : String) (zone : Option String)
    (clock : String) :
    Agrees (expandAnswer zones settings text zone clock none)
      (generate zones (.text text) (zoneFor settings zone) (.text clock) settings.limits).value := by
  cases hread : Rule.ofZonedText text with
  | error cause =>
    have hgenerate :
        (generate zones (.text text) (zoneFor settings zone) (.text clock) settings.limits).value =
          .error (.numeral cause) := by
      rw [generate_value, Request.read_value, hread]
    rw [expandAnswer_of_error hread, hgenerate]
    exact .raised _
  | ok found =>
    cases found with
    | none =>
      rw [expandAnswer_of_none hread, (generate_of_none hread).1]
      exact .silent (by decide)
    | some rule =>
      rw [expandAnswer_of_some hread, Option.map_none]
      exact agrees_of_settles (generate_settles hread)

section

variable {zones : ZoneDatabase} {settings : Settings} {text clock : String} {zone : Option String}
  {limit : Option Int} {answered : Answer}

/-- The codes of the command tell the cases apart: text without a rule, a reference time or a zone that
    cannot be made out for a rule that was read, and a list of occurrences, which alone is written. -/
theorem exit_of_expandAnswer (hanswer : expandAnswer zones settings text zone clock limit = .ok answered) :
    (answered.exit = Answer.invalid ↔ Rule.ofZonedText text = .ok none) ∧
      (answered.exit = Answer.refused ↔ ∃ rule, Rule.ofZonedText text = .ok (some rule) ∧
        Projection.IsRefused zones (zoneFor settings zone) (.text clock)) ∧
      (answered.exit = Answer.success ↔ ∃ rule texts, Rule.ofZonedText text = .ok (some rule) ∧
        (rule.expand zones (zoneFor settings zone) (.text clock) (limit.map .number) none
          settings.limits).value = .ok texts ∧ answered.output = Answer.lines texts) ∧
      (answered.exit ≠ Answer.success → answered.output = "") := by
  cases hread : Rule.ofZonedText text with
  | error cause =>
    rw [expandAnswer_of_error hread] at hanswer
    cases hanswer
  | ok found =>
    cases found with
    | none =>
      rw [expandAnswer_of_none hread] at hanswer
      cases hanswer
      refine ⟨iff_of_true rfl rfl, iff_of_false (by decide) ?_, iff_of_false (by decide) ?_, fun _ => rfl⟩
      · rintro ⟨rule, hrule, -⟩
        cases hrule
      · rintro ⟨rule, texts, hrule, -⟩
        cases hrule
    | some rule =>
      obtain ⟨⟨start, hstart⟩, -⟩ := Rule.isUniversal_of_ofZonedText hread
      rw [expandAnswer_of_some hread, told_eq_ok_iff, Rule.expand_message?_iff hstart] at hanswer
      rcases hanswer with ⟨texts, htexts, rfl⟩ | ⟨hrefused, rfl⟩
      · refine ⟨iff_of_false Answer.success_ne_invalid nofun, iff_of_false Answer.success_ne_refused ?_,
          iff_of_true rfl ⟨rule, texts, rfl, htexts, rfl⟩, fun hcode => absurd rfl hcode⟩
        rintro ⟨other, hother, hrefused⟩
        cases hother
        obtain ⟨fault, message, hfault, -⟩ := (Rule.expand_message?_iff hstart).2 hrefused
        rw [htexts] at hfault
        cases hfault
      · refine ⟨iff_of_false (by decide) nofun, iff_of_true rfl ⟨rule, rfl, hrefused⟩,
          iff_of_false (by decide) ?_, fun _ => rfl⟩
        rintro ⟨other, texts, hother, htexts, -⟩
        cases hother
        obtain ⟨fault, message, hfault, -⟩ := (Rule.expand_message?_iff hstart).2 hrefused
        rw [htexts] at hfault
        cases hfault

end

end Command

/-- A run with the words of a command to expand that ends with a code has loaded settings, and it ends and
    writes as the command answers under these and the options of the program. -/
theorem Invocation.run_of_expand {zones : ZoneDatabase} {surroundings : Surroundings}
    {supportsColor : Bool} {stamp : String} {words : List String} {config : Option Path} {log : LogOptions}
    {text clock : String} {zone : Option String} {limit : Option Int}
    (hwords : ofWords words = .ok ⟨config, log, .expand text zone clock limit⟩) {code : Nat}
    (hexit : (runWords zones surroundings supportsColor stamp words).exit = .ok code) :
    ∃ loaded, Settings.load surroundings [] config = .ok loaded ∧
      Command.expandAnswer zones (loaded.value.override log) text zone clock limit =
        .ok ⟨code, (runWords zones surroundings supportsColor stamp words).output⟩ := by
  unfold runWords at hexit ⊢
  rw [hwords] at hexit ⊢
  simp only [run] at hexit ⊢
  cases hload : Settings.load surroundings [] config with
  | error fault =>
    rw [hload] at hexit
    cases hexit
  | ok loaded =>
    simp only [hload] at hexit ⊢
    refine ⟨loaded, rfl, ?_⟩
    split at hexit
    · cases hexit
    · next journal hjournal =>
      rw [← Command.expandAnswer] at hexit ⊢
      cases hanswer : Command.expandAnswer zones (loaded.value.override log) text zone clock limit with
      | error fault =>
        rw [hanswer] at hexit
        cases hexit
      | ok answered =>
        rw [hanswer] at hexit
        cases hexit
        rfl

/-- Whatever zones there are, the command to expand agrees with the library. Under any settings it answers without
    a limit as is generated from the decoded rule text, in the zone that was asked for or that of the settings; its
    codes tell the cases apart, and with a limit it writes what expanding with that limit gives. Every rule text,
    zone and reference time can be asked for, and a run with any words that ask for them ends and writes as
    the command answers under the settings that it has loaded. -/
theorem Command.expand_agrees_with_generate (zones : ZoneDatabase) (rule clock : String)
    (zone : Option String) :
    (∀ settings : Settings, Agrees (expandAnswer zones settings (CommandDraft.unfolded rule) zone clock none)
        (generate zones (.text (CommandDraft.unfolded rule)) (zoneFor settings zone) (.text clock)
          settings.limits).value) ∧
      (∀ settings limit answered,
        expandAnswer zones settings (CommandDraft.unfolded rule) zone clock limit = .ok answered →
          (answered.exit = Answer.invalid ↔
            Rule.ofZonedText (CommandDraft.unfolded rule) = .ok none) ∧
          (answered.exit = Answer.refused ↔
            ∃ parsed, Rule.ofZonedText (CommandDraft.unfolded rule) = .ok (some parsed) ∧
              Projection.IsRefused zones (zoneFor settings zone) (.text clock)) ∧
          (answered.exit = Answer.success ↔
            ∃ parsed texts, Rule.ofZonedText (CommandDraft.unfolded rule) = .ok (some parsed) ∧
              (parsed.expand zones (zoneFor settings zone) (.text clock) (limit.map .number) none
                settings.limits).value = .ok texts ∧ answered.output = Answer.lines texts) ∧
          (answered.exit ≠ Answer.success → answered.output = "")) ∧
      (∀ limit number, limit.mapM CommandDraft.readLimit = .ok number →
        Invocation.ofWords (expandWords rule zone clock limit) =
          .ok ⟨none, {}, .expand (CommandDraft.unfolded rule) zone clock number⟩) ∧
      ∀ surroundings supportsColor stamp words config log limit code,
        Invocation.ofWords words =
          .ok ⟨config, log, .expand (CommandDraft.unfolded rule) zone clock limit⟩ →
        (runWords zones surroundings supportsColor stamp words).exit = .ok code →
        ∃ loaded, Settings.load surroundings [] config = .ok loaded ∧
          expandAnswer zones (loaded.value.override log) (CommandDraft.unfolded rule) zone clock limit =
            .ok ⟨code, (runWords zones surroundings supportsColor stamp words).output⟩ :=
  ⟨fun settings => agrees_generate zones settings _ zone clock, fun _ _ _ => exit_of_expandAnswer,
    fun _ _ => Invocation.ofWords_expandWords rule zone clock,
    fun _ _ _ _ _ _ _ _ hwords => Invocation.run_of_expand hwords⟩

/-- Nothing but a current folder. -/
def bareSurroundings : Surroundings := { files := { current := ⟨"/", []⟩ } }

/-- Two days with the line break spelt out. -/
def foldedTwoDays : String := "DTSTART;TZID=UTC:20240101T000000\\nRRULE:FREQ=DAILY;COUNT=2"

/-- Two days, asked for with nothing else there, are answered under the settings that nothing gives. -/
theorem Command.twoDays_agree :
    ∃ loaded, Settings.load bareSurroundings [] none = .ok loaded ∧
      expandAnswer .listed (loaded.value.override {}) (CommandDraft.unfolded foldedTwoDays) none "09:00" none =
        .ok ⟨Answer.success, "2024-01-01T09:00:00.000+00:00\n2024-01-02T09:00:00.000+00:00\n"⟩ := by
  obtain ⟨-, -, hwords, hrun⟩ := expand_agrees_with_generate .listed foldedTwoDays "09:00" none
  have hexit : (runWords .listed bareSurroundings false "" (expandWords foldedTwoDays none "09:00" none)).exit =
      .ok Answer.success := toOption_eq_some_iff.1 (by decide +kernel)
  have houtput : (runWords .listed bareSurroundings false "" (expandWords foldedTwoDays none "09:00" none)).output =
      "2024-01-01T09:00:00.000+00:00\n2024-01-02T09:00:00.000+00:00\n" := by decide +kernel
  obtain ⟨loaded, hload, hanswer⟩ :=
    hrun bareSurroundings false "" _ none {} none Answer.success (hwords none none rfl) hexit
  rw [houtput] at hanswer
  exact ⟨loaded, hload, hanswer⟩

end Recurrence
