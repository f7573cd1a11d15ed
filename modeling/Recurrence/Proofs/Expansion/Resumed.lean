import Recurrence.Proofs.Expansion.Narrower
import Recurrence.Proofs.Expansion.NthWeekday

namespace Recurrence

/-- An item of a filtered list comes from an item of the list, with as many before it as have come from the items
    before that one. -/
theorem filterMap_getElem?_eq_some {α β : Type} {f : α → Option β} {items : List α} {place : Nat}
    {value : β} (hvalue : (items.filterMap f)[place]? = some value) :
    ∃ steps item, items[steps]? = some item ∧ f item = some value ∧
      ((items.take steps).filterMap f).length = place := by
  induction items generalizing place with
  | nil => simp at hvalue
  | cons first rest ih =>
    cases hfirst : f first with
    | none =>
      rw [List.filterMap_cons_none hfirst] at hvalue
      obtain ⟨steps, item, hitem, hfound, hbefore⟩ := ih hvalue
      refine ⟨steps + 1, item, hitem, hfound, ?_⟩
      rw [List.take_succ_cons, List.filterMap_cons_none hfirst, hbefore]
    | some found =>
      rw [List.filterMap_cons_some hfirst] at hvalue
      cases place with
      | zero =>
        rw [List.getElem?_cons_zero] at hvalue
        exact ⟨0, first, rfl, hfirst.trans hvalue, rfl⟩
      | succ place =>
        rw [List.getElem?_cons_succ] at hvalue
        obtain ⟨steps, item, hitem, hfound, hbefore⟩ := ih hvalue
        refine ⟨steps + 1, item, hitem, hfound, ?_⟩
        rw [List.take_succ_cons, List.filterMap_cons_some hfirst, List.length_cons, hbefore]

/-- Taking items while they fit and then leaving some out is leaving them out and then taking items, unless
    one of these does not fit although the item after them does. -/
theorem drop_takeWhile {α : Type} {p : α → Bool} {items : List α} {place : Nat} {item : α}
    (hitem : items[place]? = some item)
    (hclosed : p item = true → ∀ earlier ∈ items.take place, p earlier = true) :
    (items.takeWhile p).drop place = (items.drop place).takeWhile p := by
  induction place generalizing items with
  | zero => rfl
  | succ place ih =>
    obtain _ | ⟨first, rest⟩ := items
    · cases hitem
    · rw [List.getElem?_cons_succ] at hitem
      rw [List.drop_succ_cons]
      rw [List.take_succ_cons] at hclosed
      cases hfirst : p first with
      | true =>
        rw [List.takeWhile_cons_of_pos hfirst, List.drop_succ_cons]
        exact ih hitem fun hadmitted earlier hearlier =>
          hclosed hadmitted earlier (List.mem_cons_of_mem first hearlier)
      | false =>
        have hrefused : ¬ p item = true := by
          intro hadmitted
          rw [hclosed hadmitted first List.mem_cons_self] at hfirst
          cases hfirst
        obtain ⟨hinside, rfl⟩ := List.getElem?_eq_some_iff.1 hitem
        rw [List.takeWhile_cons_of_neg (by simp [hfirst]), List.drop_nil,
          List.drop_eq_getElem_cons hinside, List.takeWhile_cons_of_neg hrefused]

namespace Rule

/-- The rule with another start. -/
def startingAt (rule : Rule) (moment : Moment) : Rule := { rule with start := some moment }

/-- So many moves from a moment on. -/
def advanceTimes (rule : Rule) : Nat → Moment → Except CalendarError Moment
  | 0, moment => .ok moment
  | moves + 1, moment => (rule.advance moment).bind (rule.advanceTimes moves)

theorem advanceTimes_eq_ok_iff {rule : Rule} {start place : Moment} {moves : Nat} :
    rule.advanceTimes moves start = .ok place ↔ (rule.course start)[moves]? = some place := by
  induction moves generalizing start with
  | zero => rw [course_getElem?_zero, advanceTimes, Except.ok.injEq, Option.some.injEq]
  | succ moves ih =>
    cases hmove : rule.advance start with
    | error cause =>
      rw [advanceTimes, hmove, course_of_advance_error hmove]
      simp [Except.bind]
    | ok next =>
      rw [advanceTimes, hmove, course_of_advance_ok hmove, List.getElem?_cons_succ, ← ih]
      rfl

theorem course_drop {rule : Rule} {start place : Moment} {moves : Nat}
    (hplace : (rule.course start)[moves]? = some place) :
    (rule.course start).drop moves = rule.course place := by
  induction moves generalizing start with
  | zero =>
    rw [course_getElem?_zero, Option.some.injEq] at hplace
    rw [hplace, List.drop_zero]
  | succ moves ih =>
    cases hmove : rule.advance start with
    | error cause =>
      rw [course_of_advance_error hmove] at hplace
      cases hplace
    | ok next =>
      rw [course_of_advance_ok hmove] at hplace ⊢
      exact ih hplace

/-- The start of a rule has no part in where its cursor goes. -/
theorem course_startingAt (rule : Rule) (moment cursor : Moment) :
    (rule.startingAt moment).course cursor = rule.course cursor := by
  have hsame : ∀ place, (rule.startingAt moment).advance place = rule.advance place := fun _ => rfl
  refine List.ext_getElem? fun moves => ?_
  refine Option.ext fun place => ?_
  rw [← advanceTimes_eq_ok_iff, ← advanceTimes_eq_ok_iff]
  induction moves generalizing cursor with
  | zero => exact Iff.rfl
  | succ moves ih =>
    rw [advanceTimes, advanceTimes, hsame]
    cases rule.advance cursor with
    | error cause => exact Iff.rfl
    | ok next => exact ih next

/-- A rule that picks weekdays of months finds the same from every moment of a month and a frame. -/
theorem occurrences_of_same_month {rule : Rule} (huses : rule.usesNthWeekday = true) {a b : Moment}
    (hmonth : a.civil.date.monthIndex = b.civil.date.monthIndex) (hframe : a.frame = b.frame) :
    (rule.course a).filterMap rule.occurrenceAt? = (rule.course b).filterMap rule.occurrenceAt? := by
  obtain ⟨day, position, hday, hposition, -⟩ := exists_candidate_of_usesNthWeekday huses
  have hmidnight : a.atMidnightOf = b.atMidnightOf := by
    funext date
    rw [Moment.atMidnightOf, Moment.atMidnightOf, hframe]
  obtain ⟨moves, hmoves, hmoves'⟩ : ∃ moves, (rule.course a).length ≤ moves ∧
      (rule.course b).length ≤ moves :=
    ⟨max (rule.course a).length (rule.course b).length, Nat.le_max_left _ _, Nat.le_max_right _ _⟩
  have ha := occurrences_of_course_take huses hday hposition a moves
  have hb := occurrences_of_course_take huses hday hposition b moves
  rw [List.take_of_length_le hmoves] at ha
  rw [List.take_of_length_le hmoves'] at hb
  rw [ha, hb, Moment.nthWeekdays, Moment.nthWeekdays, hmidnight]
  simp only [Moment.monthAfter, hmonth]

end Rule

namespace Plan

/-- A run that its cap does not stop finds what limit and bound ask for. -/
theorem occurrences_eq_requested_of_quiet {plan : Plan} {limit cap : Int}
    (hlimit : plan.limit = .number limit) (hcap : plan.cap = .number cap)
    (hquiet : ¬ plan.run.ReportsStop plan) : plan.run.occurrences = plan.requested limit := by
  -- The run is the same under a cap with room for every place.
  obtain ⟨room, hroom, hvisits⟩ : ∃ room : Int, cap ≤ room ∧ plan.visits.length ≤ room :=
    ⟨max cap plan.visits.length, Int.le_max_left _ _, Int.le_max_right _ _⟩
  have hsame : (plan.withCap room).run = plan.run :=
    finish_withCap hlimit hcap hroom plan.begin fun hending => hquiet (Run.reportsStop_iff.2 hending)
  have hfound := @occurrences_eq (plan.withCap room) limit hlimit room rfl
  have hplaces : (plan.withCap room).visits = plan.visits := rfl
  have hmoves := le_movesWithin room
  have hall : plan.visits.take (movesWithin room) = plan.visits := List.take_of_length_le (by omega)
  rw [hsame, hplaces, hall] at hfound
  exact hfound

/-- A plan that takes a rule up from another moment on, under the same bound and with a limit of its own, and
    whose run its cap does not stop. -/
structure Resumes (rule : Rule) (asked : Option Moment) (moment : Moment) (limit : Int)
    (later : Plan) : Prop where
  made : ∃ given limits, make (rule.startingAt moment) given asked limits = .ok later
  limit : later.limit = .number limit
  cap : ∃ cap, later.cap = .number cap
  quiet : ¬ later.run.ReportsStop later

/-- The places of a run that takes up a plan are the plan's own from there on. -/
theorem Resumes.occurrences_eq {plan later : Plan} {asked : Option Moment} {moment : Moment}
    {limit : Int} (hresumes : Resumes plan.rule asked moment limit later)
    (hbound : plan.bound = asked.or plan.rule.bound) :
    later.run.occurrences =
      ((plan.visitsFrom moment).filterMap plan.rule.occurrenceAt?).take limit.toNat := by
  obtain ⟨⟨given, limits, hmake⟩, hlimit, ⟨cap, hcap⟩, hquiet⟩ := hresumes
  obtain ⟨hrule, hstart, hlater, -⟩ := of_make hmake
  have hmoment : later.start = moment := (Option.some.inj hstart).symm
  have hadmits : later.admits = plan.admits := by
    funext place
    unfold admits
    rw [hlater, hbound]
    rfl
  have hvisits : later.visits = plan.visitsFrom moment := by
    rw [visits, visitsFrom, hmoment, hrule, Rule.course_startingAt, hadmits]
    rfl
  rw [occurrences_eq_requested_of_quiet hlimit hcap hquiet, requested, hvisits, hrule]
  rfl

/-- From a place of its course on, a plan visits what it would visit from there, if it visits every place before
    that one or its bound passes once. -/
theorem visits_drop {plan : Plan} {place : Moment} {moves : Nat}
    (hplace : (plan.rule.course plan.start)[moves]? = some place)
    (hreached : moves ≤ plan.visits.length ∨ plan.BoundPassesOnce) :
    plan.visits.drop moves = plan.visitsFrom place := by
  have hclosed : plan.admits place = true →
      ∀ earlier ∈ (plan.rule.course plan.start).take moves, plan.admits earlier = true := by
    intro hadmitted earlier hearlier
    rcases hreached with hlength | honce
    · obtain ⟨more, hmore⟩ := plan.visits_beginning
      rw [← hmore, List.take_append_of_le_length hlength] at hearlier
      exact List.mem_takeWhile_imp (List.mem_of_mem_take hearlier)
    · have hpairs := course_pairwise_admits_of_once honce
      rw [← List.take_append_drop moves (plan.rule.course plan.start), Rule.course_drop hplace,
        List.pairwise_append] at hpairs
      refine hpairs.2.2 earlier hearlier place ?_ hadmitted
      exact List.mem_of_getElem? (plan.rule.course_getElem?_zero place)
  rw [visits, visitsFrom, drop_takeWhile hplace hclosed, Rule.course_drop hplace]
  rfl

/-- An occurrence stands for its place, unless the rule picks weekdays of months and has a bound. -/
theorem occurrences_from_occurrence {plan : Plan} {place occurrence : Moment}
    (hfound : plan.rule.occurrenceAt? place = some occurrence)
    (hmode : plan.bound = none ∨ plan.rule.usesNthWeekday = false) :
    (plan.visitsFrom occurrence).filterMap plan.rule.occurrenceAt? =
      (plan.visitsFrom place).filterMap plan.rule.occurrenceAt? := by
  cases hnth : plan.rule.usesNthWeekday with
  | false => rw [Rule.occurrenceAt?_eq_self hnth hfound]
  | true =>
    have hunbound : plan.bound = none := hmode.resolve_right (by simp [hnth])
    obtain ⟨hmonth, hframe⟩ := Rule.index_frame_of_occurrenceAt? hfound
    rw [Rule.stride_of_usesNthWeekday hnth] at hmonth
    rw [visitsFrom_of_unbound hunbound, visitsFrom_of_unbound hunbound,
      Rule.occurrences_of_same_month hnth hmonth hframe]

theorem filterMap_visits_of_drop {plan : Plan} {place : Moment} {moves : Nat}
    (hrest : plan.visits.drop moves = plan.visitsFrom place) :
    plan.visits.filterMap plan.rule.occurrenceAt? =
      (plan.visits.take moves).filterMap plan.rule.occurrenceAt? ++
        (plan.visitsFrom place).filterMap plan.rule.occurrenceAt? := by
  rw [← hrest, ← List.filterMap_append, List.take_append_drop]

/-- From an occurrence on, a run that asks for what limit and bound allow finds what there is from its place on. -/
theorem exists_drop_requested {plan : Plan} {limit : Int} {index : Nat} {occurrence : Moment}
    (hoccurrence : (plan.requested limit)[index]? = some occurrence) :
    ∃ place, plan.rule.occurrenceAt? place = some occurrence ∧
      (plan.requested limit).drop index =
        ((plan.visitsFrom place).filterMap plan.rule.occurrenceAt?).take (limit - index).toNat := by
  obtain ⟨moves, place, hvisit, hplace, hbefore⟩ :=
    filterMap_getElem?_eq_some (getElem?_of_isPrefix (List.take_prefix _ _) hoccurrence)
  have hlength := (List.getElem?_eq_some_iff.1 hvisit).1
  have hrest := visits_drop (getElem?_of_isPrefix plan.visits_beginning hvisit)
    (.inl (Nat.le_of_lt hlength))
  refine ⟨place, hplace, ?_⟩
  rw [requested, filterMap_visits_of_drop hrest, List.drop_take, List.drop_left' hbefore]
  congr 1
  omega

/-- A run that is not stopped by its cap can be taken up from each of its occurrences and from each place of
    its cursor. From an occurrence, with the limit less the occurrences before it, the rule finds this
    occurrence and the same ones after it; a rule that picks weekdays of months does so without a bound,
    which it compares with places and not with occurrences. From the place that so many moves lead to,
    with the limit less what the places before it have given, the rule finds in every mode what the run
    finds from there on. -/
theorem occurrences_resume {rule : Rule} {given : Option Threshold} {asked : Option Moment}
    {limits : Limits} {plan : Plan} (hmake : make rule given asked limits = .ok plan)
    {start : Moment} (hstart : rule.start = some start) {limit cap : Int}
    (hlimit : plan.limit = .number limit) (hcap : limits.steps = .number cap)
    (hquiet : ¬ plan.run.ReportsStop plan) :
    (∀ (index : Nat) (occurrence : Moment) (later : Plan),
      plan.run.occurrences[index]? = some occurrence →
        (plan.bound = none ∨ rule.usesNthWeekday = false) →
          Resumes rule asked occurrence (limit - index) later →
            later.run.occurrences = occurrence :: plan.run.occurrences.drop (index + 1)) ∧
      ∀ (moves : Nat) (place : Moment) (later : Plan), rule.advanceTimes moves start = .ok place →
        (moves ≤ plan.visits.length ∨ plan.BoundPassesOnce) →
          Resumes rule asked place (limit - (plan.foundFrom start moves limit.toNat).length) later →
            plan.run.occurrences = plan.foundFrom start moves limit.toNat ++ later.run.occurrences := by
  obtain ⟨rfl, hfirst, hbound, hsteps⟩ := of_make hmake
  obtain rfl : plan.start = start := Option.some.inj (hfirst.symm.trans hstart)
  rw [hcap] at hsteps
  have hfound := occurrences_eq_requested_of_quiet hlimit hsteps hquiet
  constructor
  · intro index occurrence later hoccurrence hmode hresumes
    obtain ⟨hinside, hhere⟩ := List.getElem?_eq_some_iff.1 hoccurrence
    obtain ⟨place, hplace, hdrop⟩ := exists_drop_requested (hfound ▸ hoccurrence)
    rw [hresumes.occurrences_eq hbound, occurrences_from_occurrence hplace hmode, ← hdrop, ← hfound,
      List.drop_eq_getElem_cons hinside, hhere]
  · intro moves place later hmoves hreached hresumes
    have hrest := visits_drop (Rule.advanceTimes_eq_ok_iff.1 hmoves) hreached
    have hgiven : plan.foundFrom plan.start moves limit.toNat =
        ((plan.visits.take moves).filterMap plan.rule.occurrenceAt?).take limit.toNat := rfl
    rw [hgiven] at hresumes ⊢
    rw [hfound, requested, filterMap_visits_of_drop hrest, hresumes.occurrences_eq hbound, List.take_append]
    congr 2
    rw [List.length_take]
    omega

def twoDays : Plan := ⟨{ start := some .leapDay }, .leapDay, .number 2, none, .number 9⟩

/-- The day after the leap day. -/
def marchDay : Moment :=
  .utc {
    date := { Moment.leapDay.civil.date with
      month := 3
      day := 1
      month_pos := by decide
      month_le := by decide
      day_pos := Nat.zero_lt_one
      day_le := by decide }
    time := .midnight }

/-- The same rule from that day on. -/
def fromMarch : Plan := ⟨twoDays.rule.startingAt marchDay, marchDay, .number 1, none, .number 9⟩

/-- Taken up at its second day, as an occurrence and as the place of the first move. -/
theorem twoDays_resume :
    make twoDays.rule (some (.number 2)) none ⟨.number 1000, .number 9⟩ = .ok twoDays ∧
      twoDays.run.occurrences[1]? = some marchDay ∧
      twoDays.rule.advanceTimes 1 .leapDay = .ok marchDay ∧
      Resumes twoDays.rule none marchDay 1 fromMarch ∧
      fromMarch.run.occurrences = marchDay :: twoDays.run.occurrences.drop 2 ∧
      twoDays.run.occurrences = .leapDay :: fromMarch.run.occurrences := by
  have hmake : make twoDays.rule (some (.number 2)) none ⟨.number 1000, .number 9⟩ = .ok twoDays := rfl
  obtain ⟨last, hrun⟩ : ∃ last, twoDays.run = ⟨⟨last, #[.leapDay, marchDay], 2⟩, .limitMet⟩ := by
    rw [run_eq_finish, finish_of_further rfl, finish_of_further rfl, finish_of_ended rfl]
    exact ⟨_, rfl⟩
  have hquiet : ¬ twoDays.run.ReportsStop twoDays := by
    rw [Run.reportsStop_iff, hrun]
    simp
  have hlater : ¬ fromMarch.run.ReportsStop fromMarch := by
    rw [Run.reportsStop_iff, run_eq_finish, finish_of_further rfl, finish_of_ended rfl]
    simp
  have hresumes : Resumes twoDays.rule none marchDay 1 fromMarch :=
    ⟨⟨some (.number 1), ⟨.number 1000, .number 9⟩, rfl⟩, rfl, ⟨9, rfl⟩, hlater⟩
  have hsecond : twoDays.run.occurrences[1]? = some marchDay := by rw [hrun]; rfl
  have hmove : twoDays.rule.advance .leapDay = .ok marchDay := rfl
  have hbefore : twoDays.foundFrom .leapDay 1 (2 : Int).toNat = [.leapDay] := by
    rw [foundFrom_of_advance_ok rfl hmove rfl (by decide) (by decide)]
    rfl
  obtain ⟨hoccurrence, hplace⟩ := occurrences_resume hmake rfl rfl rfl hquiet
  have hfound := hplace 1 marchDay fromMarch hmove (.inr fun hbound => absurd rfl hbound)
    (by rw [hbefore]; exact hresumes)
  rw [hbefore] at hfound
  exact ⟨hmake, hsecond, hmove, hresumes,
    hoccurrence 1 marchDay fromMarch hsecond (.inl rfl) hresumes, hfound⟩

end Plan

end Recurrence
