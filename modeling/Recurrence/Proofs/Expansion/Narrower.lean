import Mathlib.Data.List.Infix
import Recurrence.Expansion.Projection
import Recurrence.Proofs.Expansion.Bounded
import Recurrence.Proofs.Moment.BoundOrder
import Recurrence.Proofs.Zone.Listed

namespace Recurrence

theorem takeWhile_prefix_of_imp {α : Type} {p q : α → Bool} {items : List α}
    (himp : ∀ item ∈ items, p item = true → q item = true) :
    items.takeWhile p <+: items.takeWhile q := by
  induction items with
  | nil => exact List.nil_prefix
  | cons item rest ih =>
    cases hitem : p item with
    | false =>
      rw [List.takeWhile_cons_of_neg (by simp [hitem])]
      exact List.nil_prefix
    | true =>
      have hwider := himp item List.mem_cons_self hitem
      rw [List.takeWhile_cons_of_pos hitem, List.takeWhile_cons_of_pos hwider, List.prefix_cons_inj]
      exact ih fun later hlater => himp later (List.mem_cons_of_mem item hlater)

/-- The log of a run tells that the cap has stopped it. -/
def Run.ReportsStop (plan : Plan) (run : Run) : Prop :=
  ∃ occurrences steps limit, Notice.expansionStopped occurrences steps limit ∈ run.remarks plan

theorem Run.reportsStop_iff {plan : Plan} {run : Run} : run.ReportsStop plan ↔ run.ending = .capped := by
  unfold ReportsStop remarks
  cases run.ending <;> simp

namespace Plan

/-- The plan with another cap. -/
def withCap (plan : Plan) (cap : Int) : Plan := { plan with cap := .number cap }

section

variable {plan : Plan} {limit : Int} (hlimit : plan.limit = .number limit) {cap : Int}
  (hcap : plan.cap = .number cap) {room : Int} (hroom : cap ≤ room)
include hlimit hcap hroom

/-- A step that a cap lets go on, a larger cap lets go on to the same progress. -/
theorem GoesOn.withCap {progress later : Progress} {found : Option Moment}
    (hgoes : plan.GoesOn progress found later) : (plan.withCap room).GoesOn progress found later := by
  obtain ⟨hexamine, hmove, hrecorded, hcounted, huncapped⟩ := hgoes
  refine ⟨hexamine, hmove, hrecorded, hcounted, ?_⟩
  rw [isCapped_number hlimit hcap, Except.ok.injEq, Bool.and_eq_false_iff, decide_eq_false_iff_not,
    decide_eq_false_iff_not] at huncapped
  rw [@isCapped_number (plan.withCap room) limit hlimit room rfl, Except.ok.injEq, Bool.and_eq_false_iff,
    decide_eq_false_iff_not, decide_eq_false_iff_not]
  omega

/-- A run that its cap does not stop is the same under a larger cap. -/
theorem finish_withCap (progress : Progress) (hending : (plan.finish progress).ending ≠ .capped) :
    (plan.withCap room).finish progress = plan.finish progress := by
  refine finish_induction (P := fun progress run =>
    run.ending ≠ .capped → (plan.withCap room).finish progress = run) ?_ ?_ progress hending
  · intro progress later ending hends hending
    cases hends with
    | refused hexamine => exact finish_of_ended (step_of_examine_error hexamine)
    | stuck hexamine hmove => exact finish_of_ended (step_of_stuck hexamine hmove)
    | capped hexamine hmove hfound hsteps hcapped => exact absurd rfl hending
    | unusable hexamine hmove hfound hsteps hcapped =>
      rw [isCapped_number hlimit hcap] at hcapped
      cases hcapped
  · intro progress found later hgoes hlater hending
    rw [finish_of_further (step_of_goesOn (hgoes.withCap hlimit hcap hroom))]
    exact hlater hending

end

section

variable {plan wider : Plan} (hstart : wider.start = plan.start) (haware : plan.start.frame ≠ .floating)
  (hbound : ∀ bound, wider.bound = some bound → bound.frame ≠ .floating)
  (hbounds : Moment.EndsNoLater plan.bound wider.bound)
  (hmeets : ∀ bound ∈ plan.bound, ∀ later ∈ wider.bound, plan.start.MeetsInOrder bound later)
include haware hbound hbounds hmeets

/-- What a narrower bound admits, a wider one admits too. -/
theorem admits_of_narrower {place : Moment} (hframe : place.frame = plan.start.frame)
    (hadmitted : plan.admits place = true) : wider.admits place = true := by
  unfold admits at hadmitted ⊢
  cases hfar : wider.bound with
  | none => rfl
  | some later =>
    cases hnear : plan.bound with
    | none =>
      rw [hnear, hfar] at hbounds
      exact hbounds.elim
    | some bound =>
      rw [hnear, hfar] at hbounds
      rw [hnear] at hadmitted
      simp only [beq_iff_eq] at hadmitted ⊢
      exact (hmeets bound hnear later hfar).isAfter? hbounds hframe haware (hbound later hfar) hadmitted

include hstart

theorem visits_of_narrower (hrule : wider.rule = plan.rule) : plan.visits <+: wider.visits := by
  unfold visits visitsFrom
  rw [hrule, hstart]
  refine takeWhile_prefix_of_imp fun place hplace => ?_
  exact admits_of_narrower haware hbound hbounds hmeets (Rule.time_frame_of_mem_course hplace).2

end

/-- Of two runs of a rule whose start is not floating, the one whose limit, bound and cap are no larger finds a
    beginning of what the other one finds, whatever ends the two, if the run comes to the bounds in the order that
    they compare in. If only its cap is smaller, and it is not reported to have been stopped by it, the two runs are
    the same, their endings included. -/
theorem occurrences_prefix_of_narrower {rule : Rule} {given given' : Option Threshold}
    {asked asked' : Option Moment} {limits limits' : Limits} {plan wider : Plan}
    (hmake : make rule given asked limits = .ok plan)
    (hmake' : make rule given' asked' limits' = .ok wider)
    {start : Moment} (hstart : rule.start = some start) (haware : start.frame ≠ .floating)
    (hbound : ∀ bound, wider.bound = some bound → bound.frame ≠ .floating)
    {limit limit' cap cap' : Int} (hlimit : plan.limit = .number limit)
    (hlimit' : wider.limit = .number limit') (hcap : limits.steps = .number cap)
    (hcap' : limits'.steps = .number cap') (hlimits : limit ≤ limit')
    (hbounds : Moment.EndsNoLater plan.bound wider.bound)
    (hmeets : ∀ bound ∈ plan.bound, ∀ later ∈ wider.bound, start.MeetsInOrder bound later)
    (hcaps : cap ≤ cap') :
    plan.run.occurrences <+: wider.run.occurrences ∧
      (limit = limit' → plan.bound = wider.bound → ¬ plan.run.ReportsStop plan →
        wider.run = plan.run) := by
  obtain ⟨rfl, hfirst, -, hsteps⟩ := of_make hmake
  obtain ⟨hrule, hfirst', -, hsteps'⟩ := of_make hmake'
  obtain rfl : plan.start = start := Option.some.inj (hfirst.symm.trans hstart)
  have hsame : wider.start = plan.start := Option.some.inj (hfirst'.symm.trans hfirst)
  rw [hcap] at hsteps
  rw [hcap'] at hsteps'
  constructor
  · have hmoves : movesWithin cap ≤ movesWithin cap' := by
      unfold movesWithin
      omega
    have hvisits : plan.visits.take (movesWithin cap) <+: wider.visits.take (movesWithin cap') :=
      ((visits_of_narrower hsame haware hbound hbounds hmeets hrule).take _).trans
        (List.take_prefix_take_left hmoves)
    have hfound := hvisits.filterMap plan.rule.occurrenceAt?
    rw [occurrences_eq hlimit hsteps, occurrences_eq hlimit' hsteps', hrule]
    exact (hfound.take _).trans (List.take_prefix_take_left (by omega))
  · rintro rfl hboundSame hquiet
    have hwider : wider = plan.withCap cap' := by
      obtain ⟨_, _, _, _, _⟩ := wider
      dsimp only at hrule hsame hlimit' hboundSame hsteps'
      rw [withCap, hrule, hsame, hlimit', ← hboundSame, hsteps', hlimit]
    rw [hwider, run_eq_finish, run_eq_finish]
    exact finish_withCap hlimit hsteps hcaps plan.begin fun hending =>
      hquiet (Run.reportsStop_iff.2 hending)

/-- The leap day alone, with one move. -/
def oneDay : Plan := ⟨{ start := some .leapDay }, .leapDay, .number 1, some .leapDay, .number 1⟩

/-- A limit that is met with the last move that the cap allows: a larger cap changes nothing. From a morning in New
    York, up to a noon there and up to a later midnight of universal time, with no change of the clock near. -/
theorem oneDay_begins :
    ∃ morning noon midnight plan wider,
      make oneDay.rule (some (.number 1)) (some .leapDay) ⟨.number 1000, .number 1⟩ = .ok oneDay ∧
      make oneDay.rule (some (.number 1)) (some .leapDay) ⟨.number 1000, .number 9⟩ =
        .ok (oneDay.withCap 9) ∧
      (oneDay.withCap 9).run = oneDay.run ∧
      Civil.ofFields 2024 6 3 9 0 0 0 = .ok morning ∧ Civil.ofFields 2024 6 5 12 0 0 0 = .ok noon ∧
      Civil.ofFields 2024 6 8 0 0 0 0 = .ok midnight ∧
      make { start := some ⟨morning, .zoned Zone.Table.newYork, false⟩ } (some (.number 5))
        (some ⟨noon, .zoned Zone.Table.newYork, false⟩) ⟨.number 1000, .number 9⟩ = .ok plan ∧
      make { start := some ⟨morning, .zoned Zone.Table.newYork, false⟩ } (some (.number 5))
        (some (.utc midnight)) ⟨.number 1000, .number 9⟩ = .ok wider ∧
      Moment.EndsNoLater plan.bound wider.bound ∧ plan.run.occurrences <+: wider.run.occurrences := by
  have hplan : make oneDay.rule (some (.number 1)) (some .leapDay) ⟨.number 1000, .number 1⟩ =
      .ok oneDay := rfl
  have hroomier : make oneDay.rule (some (.number 1)) (some .leapDay) ⟨.number 1000, .number 9⟩ =
      .ok (oneDay.withCap 9) := rfl
  have haware : Moment.leapDay.frame ≠ .floating := by decide
  have hquiet : ¬ oneDay.run.ReportsStop oneDay := by
    rw [Run.reportsStop_iff, run_eq_finish, finish_of_further rfl, finish_of_ended rfl]
    simp
  obtain ⟨-, hsame⟩ := occurrences_prefix_of_narrower hplan hroomier rfl haware
    (by rintro _ ⟨⟩; exact haware) rfl rfl rfl rfl (Int.le_refl 1) (Moment.endsNoLater_refl _)
    (by rintro _ ⟨⟩ _ ⟨⟩; exact Moment.meetsInOrder_refl _ _) (by decide)
  obtain ⟨morning, noon, midnight, hmorning, hnoon, hmidnight, hcalm, hlater⟩ : ∃ morning noon midnight,
      Civil.ofFields 2024 6 3 9 0 0 0 = .ok morning ∧ Civil.ofFields 2024 6 5 12 0 0 0 = .ok noon ∧
      Civil.ofFields 2024 6 8 0 0 0 0 = .ok midnight ∧ Zone.Table.newYork.IsCalmAt noon ∧
      Moment.EndsNoLater (some ⟨noon, .zoned Zone.Table.newYork, false⟩) (some (.utc midnight)) :=
    ⟨_, _, _, rfl, rfl, rfl, by decide +kernel, by decide +kernel⟩
  have hnamed : ZoneDatabase.listed.named? "America/New_York" = some Zone.Table.newYork := by decide +kernel
  have hcome : ∀ place : Moment, place.frame = .zoned Zone.Table.newYork →
      place.civil.ticks ≤ noon.ticks →
        place.instantTick ≤ (⟨noon, .zoned Zone.Table.newYork, false⟩ : Moment).instantTick :=
    fun place hplace hshown => (Moment.civil_le_iff_of_isCalmAt (ZoneDatabase.isSound_listed.isJoined hnamed)
      (show (⟨noon, .zoned Zone.Table.newYork, false⟩ : Moment).frame = _ from rfl) hcalm hplace).1 hshown
  obtain ⟨hbegins, -⟩ := occurrences_prefix_of_narrower
    (show make { start := some ⟨morning, .zoned Zone.Table.newYork, false⟩ } (some (.number 5))
      (some ⟨noon, .zoned Zone.Table.newYork, false⟩) ⟨.number 1000, .number 9⟩ = .ok _ from rfl)
    (show make { start := some ⟨morning, .zoned Zone.Table.newYork, false⟩ } (some (.number 5))
      (some (.utc midnight)) ⟨.number 1000, .number 9⟩ = .ok _ from rfl)
    rfl nofun (by rintro _ ⟨⟩; nofun) rfl rfl rfl rfl (Int.le_refl 5) hlater
    (by rintro _ ⟨⟩ _ ⟨⟩; exact ⟨nofun, fun _ _ => hcome, nofun⟩) (Int.le_refl 9)
  exact ⟨morning, noon, midnight, _, _, hplan, hroomier, hsame rfl rfl hquiet, hmorning, hnoon, hmidnight,
    rfl, rfl, hlater, hbegins⟩

/-- The order in which bounds compare is not always the order in which a run comes to them. When the clocks of New
    York go back from two to one, a start on the second pass of a quarter past one is not after half past one, which
    it is compared with on the wall clock, but is after a later bound of universal time, which comes before that
    pass. And where no bound is asked for, that of the rule stands, which may be earlier than one that is. -/
theorem bounds_met_out_of_order :
    (∃ quarter half late plan wider,
      Civil.ofFields 2024 11 3 1 15 0 0 = .ok quarter ∧ Civil.ofFields 2024 11 3 1 30 0 0 = .ok half ∧
      Civil.ofFields 2024 11 3 5 45 0 0 = .ok late ∧
      make { start := some ⟨quarter, .zoned Zone.Table.newYork, true⟩ } (some (.number 1))
        (some ⟨half, .zoned Zone.Table.newYork, false⟩) ⟨.number 1000, .number 1000⟩ = .ok plan ∧
      make { start := some ⟨quarter, .zoned Zone.Table.newYork, true⟩ } (some (.number 1))
        (some (.utc late)) ⟨.number 1000, .number 1000⟩ = .ok wider ∧
      Moment.EndsNoLater plan.bound wider.bound ∧
      plan.run.occurrences = [⟨quarter, .zoned Zone.Table.newYork, true⟩] ∧ wider.run.occurrences = []) ∧
    ∃ next plan wider,
      Moment.leapDay.shift .days 1 = .ok next ∧
      make { start := some .leapDay, bound := some .leapDay } (some (.number 2)) (some next)
        ⟨.number 1000, .number 1000⟩ = .ok plan ∧
      make { start := some .leapDay, bound := some .leapDay } (some (.number 2)) none
        ⟨.number 1000, .number 1000⟩ = .ok wider ∧
      plan.run.occurrences = [.leapDay, next] ∧ wider.run.occurrences = [.leapDay] := by
  refine ⟨⟨_, _, _, _, _, rfl, rfl, rfl, rfl, rfl, by decide +kernel, ?_, ?_⟩, _, _, _, rfl, rfl, rfl, ?_, ?_⟩
  · rw [run_eq_finish, finish_of_further rfl, finish_of_ended rfl]
    rfl
  · rw [run_eq_finish, finish_of_ended rfl]
    rfl
  · rw [run_eq_finish, finish_of_further rfl, finish_of_further rfl, finish_of_ended rfl]
    rfl
  · rw [run_eq_finish, finish_of_further rfl, finish_of_ended rfl]
    rfl

end Plan

end Recurrence
