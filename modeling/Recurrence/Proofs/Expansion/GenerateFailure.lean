import Recurrence.Expansion.Generate
import Recurrence.Proofs.Expansion.Departure
import Recurrence.Proofs.Moment.Pinning
import Recurrence.Proofs.Rule.Zoned

namespace Recurrence

theorem ZoneMemory.empty_faithful {zones : ZoneDatabase} : ZoneMemory.Faithful {} zones := by
  intro name zone hrecall
  cases hrecall

namespace Projection

/-- The calendar has no place for an occurrence of universal time in the target zone: the zone's clock shows
    a time outside of it, or a zone with a short table cannot place the new time of day. -/
def Misses (projection : Projection) (occurrence : Moment) : Prop :=
  match projection.zone with
  | .exact zone =>
    let shown := occurrence.civil.ticks + (zone.phaseAt occurrence.civil).offset * 1000000
    shown < Civil.ticksPerDay ∨ (Civil.endTick : Int) ≤ shown
  | .lenient zone =>
    ∃ cause, occurrence.pin (.lenient zone) projection.clock = .error cause

theorem project_fails_iff {projection : Projection} {occurrence : Moment}
    (hframe : occurrence.frame = .utc) :
    (∃ cause, projection.project occurrence = .error cause) ↔ projection.Misses occurrence := by
  obtain ⟨zone, clock⟩ := projection
  rw [project, map_fails_iff, pin]
  cases zone with
  | exact zone => exact Moment.pin_exact_fails_iff hframe
  | lenient zone => rfl

end Projection

namespace Rule

/-- How many occurrences a run of the rule looks for, if settings say how many where the rule does not. -/
def wanted (rule : Rule) (most : Int) : Int :=
  match rule.count with
  | some count => count.val
  | none => most

end Rule

namespace Plan

theorem limit_of_make {rule : Rule} {most : Int} {bound : Option Moment} {cap : Threshold}
    {plan : Plan} (hmake : make rule none bound ⟨.number most, cap⟩ = .ok plan) :
    plan.limit = .number (rule.wanted most) := by
  unfold make at hmake
  unfold Rule.wanted
  split at hmake
  · cases hmake
  · cases hmake
    cases rule.count <;> rfl

theorem project_value (plan : Plan) (projection : Projection) :
    (plan.project projection).value =
      match plan.run.occurrences.mapM projection.project with
      | .error cause => .error (.calendar cause)
      | .ok projected => plan.run.all.map fun _ => projected := by
  dsimp only [project]
  cases plan.run.occurrences.mapM projection.project with
  | error cause => rfl
  | ok projected => rfl

/-- A projected run fails where an occurrence has no place in the target zone, or as the run does. -/
theorem project_fails_iff {plan : Plan} {projection : Projection} (hstart : plan.start.frame = .utc) :
    (∃ fault, (plan.project projection).value = .error fault) ↔
      plan.run.ending.IsFailure ∨
        ∃ occurrence ∈ plan.run.occurrences, projection.Misses occurrence := by
  have hmisses : (∃ cause, plan.run.occurrences.mapM projection.project = .error cause) ↔
      ∃ occurrence ∈ plan.run.occurrences, projection.Misses occurrence := by
    rw [mapM_fails_iff]
    refine exists_congr fun occurrence => and_congr_right fun hmem => ?_
    have hfound := plan.occurrences_prefix.subset hmem
    exact Projection.project_fails_iff ((Rule.frame_of_mem_occurrences hfound).trans hstart)
  have hending : (∃ fault, plan.run.all = .error fault) ↔ plan.run.ending.IsFailure := by
    simp only [Run.all_eq_error_iff]
    cases plan.run.ending <;> simp [Ending.IsFailure]
  rw [← hmisses, ← hending, project_value]
  cases plan.run.occurrences.mapM projection.project with
  | error cause => simp
  | ok projected => simp [map_fails_iff]

/-- A fault of a projected run is one of the calendar, if a fault of the run is. -/
theorem project_fault {plan : Plan} {projection : Projection} {fault : Fault}
    (hrun : ∀ fault, plan.run.ending = .failed fault → ∃ cause, fault = .calendar cause)
    (hfault : (plan.project projection).value = .error fault) : ∃ cause, fault = .calendar cause := by
  rw [project_value] at hfault
  cases hmap : plan.run.occurrences.mapM projection.project with
  | error cause =>
    rw [hmap] at hfault
    cases hfault
    exact ⟨cause, rfl⟩
  | ok projected =>
    rw [hmap] at hfault
    cases hall : plan.run.all with
    | error cause =>
      simp only [hall] at hfault
      cases hfault
      exact hrun _ (Run.all_eq_error_iff.1 hall)
    | ok found =>
      simp only [hall] at hfault
      cases hfault

end Plan

namespace Request

/-- The first stage gives a request where the text has a rule and there is a projection; it fails only on
    the text. -/
theorem read_value (zones : ZoneDatabase) (text : String) (zone clock : Value) :
    (read zones {} (.text text) zone clock).1.value =
      match Rule.ofZonedText text with
      | .error error => .error (.numeral error)
      | .ok none => .ok none
      | .ok (some rule) =>
        match Projection.make zones zone clock with
        | .error _ => .ok none
        | .ok projection => .ok (some ⟨rule, zone, projection⟩) := by
  have hmade := @Projection.makeWith_value_of_faithful zones _ ZoneMemory.empty_faithful zone clock
  dsimp only [read, Rule.ofZonedValue]
  rw [← hmade]
  cases Rule.ofZonedText text with
  | error error => rfl
  | ok found =>
    cases found with
    | none => rfl
    | some rule =>
      dsimp only
      cases (Projection.makeWith zones {} zone clock).1.value with
      | error error => rfl
      | ok projection => rfl

/-- The second stage passes on what the projected run gives, if its faults are those of the calendar. -/
theorem answer_value {request : Request} {limits : Limits} {plan : Plan}
    (hmake : Plan.make request.rule none none limits = .ok plan)
    (hrun : ∀ fault, plan.run.ending = .failed fault → ∃ cause, fault = .calendar cause) :
    (request.answer limits).value = (plan.project request.projection).value := by
  unfold answer
  rw [hmake]
  cases hvalue : (plan.project request.projection).value with
  | ok texts => simp only [hvalue]
  | error fault =>
    obtain ⟨cause, rfl⟩ := Plan.project_fault hrun hvalue
    simp only [hvalue, Fault.message?]

end Request

theorem generate_value (zones : ZoneDatabase) (text zone clock : Value) (limits : Limits) :
    (generate zones text zone clock limits).value =
      match (Request.read zones {} text zone clock).1.value with
      | .error fault => .error fault
      | .ok none => .ok []
      | .ok (some request) => (request.answer limits).value := by
  dsimp only [generate]
  cases (Request.read zones {} text zone clock).1.value with
  | error fault => rfl
  | ok found =>
    cases found with
    | none => rfl
    | some request => rfl

section

variable {zones : ZoneDatabase} {text : String} {zone clock : Value} {most cap : Int} {rule : Rule}
  {projection : Projection} {plan : Plan} (hread : Rule.ofZonedText text = .ok (some rule))
  (hproject : Projection.make zones zone clock = .ok projection)
  (hmake : Plan.make rule none none ⟨.number most, .number cap⟩ = .ok plan)
include hread hproject hmake

/-- A rule of zoned text fails to run on nothing but the calendar, since its start and its bound are both in
    universal time, and the text gives what its projected run gives. -/
theorem generate_of_plan :
    (∀ fault, plan.run.ending = .failed fault → ∃ cause, fault = .calendar cause) ∧
      (generate zones (.text text) zone clock ⟨.number most, .number cap⟩).value =
        (plan.project projection).value ∧
      ((∃ fault, (plan.project projection).value = .error fault) ↔
        plan.DepartsFrom plan.start (Plan.movesWithin cap) (rule.wanted most).toNat ∨
          ∃ occurrence ∈ plan.run.occurrences, projection.Misses occurrence) := by
  obtain ⟨hrule, hstart, hbound, hcap⟩ := Plan.of_make hmake
  obtain ⟨⟨civil, hcivil⟩, huniversal⟩ := Rule.isUniversal_of_ofZonedText hread
  have hlimit := Plan.limit_of_make hmake
  have hframe : plan.start.frame = .utc := by
    rw [hcivil, Option.some.injEq] at hstart
    rw [← hstart]
    rfl
  have hcomparable : plan.IsComparable plan.start := by
    intro bound hset
    rw [hbound, Option.none_or] at hset
    rw [hframe, huniversal bound hset]
  have hfault : ∀ fault, plan.run.ending = .failed fault → ∃ cause, fault = .calendar cause :=
    fun fault hending => Plan.finish_fault hlimit hcap plan.begin hcomparable hending
  refine ⟨hfault, ?_, ?_⟩
  · rw [generate_value, Request.read_value, hread]
    simp only [hproject]
    exact Request.answer_value hmake hfault
  · rw [Plan.project_fails_iff hframe, Plan.run_isFailure_iff hlimit hcap hcomparable]

end

/-- Whatever zones there are, text cannot be expanded, under settings whose limits are numbers, exactly if a
    numeral in it is too long to be read, or if it has a rule, and a projection can be made, and either the run
    departs from the calendar or the calendar has no place for an occurrence in the target zone. -/
theorem generate_fails_iff (zones : ZoneDatabase) (text : String) (zone clock : Value) (most cap : Int) :
    ((∃ fault, (generate zones (.text text) zone clock ⟨.number most, .number cap⟩).value = .error fault) ↔
        Rule.HoldsTooLong text ∨
          ∃ rule projection plan, Rule.ofZonedText text = .ok (some rule) ∧
            Projection.make zones zone clock = .ok projection ∧
            Plan.make rule none none ⟨.number most, .number cap⟩ = .ok plan ∧
            (plan.DepartsFrom plan.start (Plan.movesWithin cap) (rule.wanted most).toNat ∨
              ∃ occurrence ∈ plan.run.occurrences, projection.Misses occurrence)) ∧
      ∀ fault, (generate zones (.text text) zone clock ⟨.number most, .number cap⟩).value = .error fault →
        (∃ cause, fault = .numeral cause) ∨ ∃ cause, fault = .calendar cause := by
  have hlong : Rule.HoldsTooLong text ↔ ∃ error, Rule.ofZonedText text = .error error :=
    Rule.ofZonedText_fails_iff.symm
  cases hread : Rule.ofZonedText text with
  | error error =>
    have hvalue : (generate zones (.text text) zone clock ⟨.number most, .number cap⟩).value =
        .error (.numeral error) := by
      rw [generate_value, Request.read_value, hread]
    rw [hvalue]
    refine ⟨iff_of_true ⟨_, rfl⟩ (.inl (hlong.2 ⟨error, hread⟩)), fun fault hfault => ?_⟩
    cases hfault
    exact .inl ⟨error, rfl⟩
  | ok found =>
    have hshort : ¬ Rule.HoldsTooLong text := by
      rw [hlong, hread]
      simp
    cases found with
    | none =>
      have hvalue : (generate zones (.text text) zone clock ⟨.number most, .number cap⟩).value = .ok [] := by
        rw [generate_value, Request.read_value, hread]
      rw [hvalue]
      simp [hshort]
    | some rule =>
      cases hproject : Projection.make zones zone clock with
      | error error =>
        have hvalue :
            (generate zones (.text text) zone clock ⟨.number most, .number cap⟩).value = .ok [] := by
          rw [generate_value, Request.read_value, hread]
          simp only [hproject]
        rw [hvalue]
        simp [hshort]
      | ok projection =>
        obtain ⟨⟨civil, hcivil⟩, -⟩ := Rule.isUniversal_of_ofZonedText hread
        obtain ⟨plan, hmake⟩ :=
          Plan.exists_make hcivil none none ⟨.number most, .number cap⟩
        obtain ⟨hrun, hvalue, hfails⟩ := generate_of_plan hread hproject hmake
        rw [hvalue, hfails]
        refine ⟨⟨fun hcase => .inr ⟨rule, projection, plan, rfl, rfl, hmake, hcase⟩, ?_⟩,
          fun fault hfault => .inr (Plan.project_fault hrun hfault)⟩
        rintro (htoo | ⟨_, _, other, hrule, hprojection, hother, hcase⟩)
        · exact absurd htoo hshort
        · cases hrule
          cases hprojection
          rw [hmake] at hother
          cases hother
          exact hcase

end Recurrence
