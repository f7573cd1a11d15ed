import Recurrence.Proofs.Expansion.Steps
import Recurrence.Proofs.Moment.Order

namespace Recurrence

theorem takeWhile_eq_filter_of_pairwise {α : Type} {p : α → Bool} {items : List α}
    (hclosed : items.Pairwise fun earlier later => p later = true → p earlier = true) :
    items.takeWhile p = items.filter p := by
  induction hclosed with
  | nil => rfl
  | @cons item rest hfirst hrest ih =>
    cases hitem : p item with
    | true => rw [List.takeWhile_cons_of_pos hitem, List.filter_cons_of_pos hitem, ih]
    | false =>
      have hnone : rest.filter p = [] := by
        rw [List.filter_eq_nil_iff]
        intro later hlater hadmitted
        rw [hfirst later hlater hadmitted] at hitem
        cases hitem
      rw [List.takeWhile_cons_of_neg (by simp [hitem]), List.filter_cons_of_neg (by simp [hitem]),
        hnone]

theorem getElem?_of_isPrefix {α : Type} {items more : List α} (hbegins : items <+: more) {place : Nat}
    {item : α} (hitem : items[place]? = some item) : more[place]? = some item := by
  obtain ⟨rest, rfl⟩ := hbegins
  rw [List.getElem?_append_left (List.getElem?_eq_some_iff.1 hitem).1, hitem]

theorem Threshold.isAhead_number (value : Int) (count : Nat) :
    (number value).isAhead count = .ok (decide ((count : Int) < value)) := by
  simp only [isAhead, isReached, Except.map]
  congr 1
  simp only [← decide_not, Int.not_le]

namespace Rule

/-- The rule stays in the calendar at a place: the calendar has room for its stride and, where it picks a
    weekday of the month, has the day that its position counts to. -/
def StaysInside (rule : Rule) (place : Moment) : Prop :=
  rule.stride.index place.civil.date + rule.stride.count < rule.stride.limit ∧
    (rule.usesNthWeekday = true → ∀ day position, rule.weekdays.head? = some day →
      rule.positions.head? = some position → 0 < position →
        place.countedDay day position ≤ Date.lastDayNumber)

/-- Staying inside is what both looking for an occurrence and moving on need. -/
theorem staysInside_iff {rule : Rule} {place : Moment} :
    rule.StaysInside place ↔
      (∃ next, rule.advance place = .ok next) ∧ ∃ found, rule.candidate place = .ok found := by
  have hmove : (∃ next, rule.advance place = .ok next) ↔
      rule.stride.index place.civil.date + rule.stride.count < rule.stride.limit := by
    rw [← Nat.not_le, ← advance_fails_iff]
    cases rule.advance place <;> simp
  unfold StaysInside
  rw [hmove]
  refine and_congr_right fun _ => ?_
  cases hnth : rule.usesNthWeekday with
  | true =>
    obtain ⟨day, position, hday, hposition, hcandidate⟩ := exists_candidate_of_usesNthWeekday hnth
    have hfails := @Moment.nthWeekday_fails_iff place day position
    rw [hcandidate, hday, hposition]
    simp only [Option.some.injEq, forall_const]
    cases hpick : place.nthWeekday day position with
    | error cause =>
      obtain ⟨hpos, hpast⟩ := hfails.1 ⟨cause, hpick⟩
      refine ⟨fun hinside => ?_, fun hfound => ?_⟩
      · have hcounted := hinside day position rfl rfl hpos
        omega
      · obtain ⟨found, hfound⟩ := hfound
        cases hfound
    | ok found =>
      refine ⟨fun _ => ⟨found, rfl⟩, fun _ => ?_⟩
      rintro _ _ rfl rfl hpos
      refine Int.not_lt.1 fun hpast => ?_
      obtain ⟨cause, hfail⟩ := hfails.2 ⟨hpos, hpast⟩
      rw [hpick] at hfail
      cases hfail
  | false =>
    simp only [Bool.false_eq_true, false_implies, true_iff]
    cases hweekdays : rule.usesWeekdays with
    | true => exact ⟨_, candidate_of_usesWeekdays hweekdays place⟩
    | false => exact ⟨_, candidate_of_plain hweekdays hnth place⟩

end Rule

namespace Plan

/-- Whether a place can be compared with the bound and is not after it. -/
def admits (plan : Plan) (place : Moment) : Bool :=
  match plan.bound with
  | none => true
  | some bound => place.isAfter? bound == some false

/-- Whether the bound, if there is one, can be compared with a place. -/
def IsComparable (plan : Plan) (place : Moment) : Prop :=
  ∀ bound, plan.bound = some bound → (place.frame = .floating ↔ bound.frame = .floating)

theorem isPastBound_eq_ok_false_iff {plan : Plan} {place : Moment} :
    plan.isPastBound place = .ok false ↔ plan.admits place = true := by
  unfold isPastBound admits
  cases plan.bound with
  | none => simp
  | some bound =>
    cases hafter : place.isAfter? bound with
    | none => simp [hafter]
    | some later => cases later <;> simp [hafter]

theorem admits_eq_false {plan : Plan} {place : Moment} (hpast : plan.isPastBound place ≠ .ok false) :
    plan.admits place = false :=
  Bool.eq_false_iff.2 fun hadmits => hpast (isPastBound_eq_ok_false_iff.2 hadmits)

theorem isPastBound_ne_error {plan : Plan} {place : Moment} (hcomparable : plan.IsComparable place)
    (fault : Fault) : plan.isPastBound place ≠ .error fault := by
  unfold isPastBound
  cases hbound : plan.bound with
  | none => simp
  | some bound =>
    cases hafter : place.isAfter? bound with
    | none => exact absurd (hcomparable bound hbound) (Moment.isAfter?_eq_none_iff.1 hafter)
    | some later => simp [hafter]

theorem IsComparable.of_advance {plan : Plan} {cursor next : Moment}
    (hcomparable : plan.IsComparable cursor) (hmove : plan.rule.advance cursor = .ok next) :
    plan.IsComparable next := by
  obtain ⟨date, -, rfl⟩ := Rule.advance_eq_ok_iff.1 hmove
  exact hcomparable

/-- The places from a cursor on up to the first one that the bound does not admit. -/
def visitsFrom (plan : Plan) (cursor : Moment) : List Moment :=
  (plan.rule.course cursor).takeWhile plan.admits

/-- The places that a run visits unless limit or cap stop it before. -/
def visits (plan : Plan) : List Moment := plan.visitsFrom plan.start

theorem visits_beginning (plan : Plan) : plan.visits <+: plan.rule.course plan.start :=
  List.takeWhile_prefix plan.admits

/-- From a start in a steady frame, no place is admitted after one that is not. -/
theorem course_pairwise_admits {plan : Plan} (hsteady : plan.start.frame.IsSteady) :
    (plan.rule.course plan.start).Pairwise fun earlier later =>
      plan.admits later = true → plan.admits earlier = true := by
  refine (plan.rule.course_pairwise_index plan.start).imp_of_mem ?_
  intro earlier later hearlier hlater hindex hadmits
  have hfirst := (Rule.time_frame_of_mem_course hearlier).2
  have hsecond := (Rule.time_frame_of_mem_course hlater).2
  unfold admits at hadmits ⊢
  cases hbound : plan.bound with
  | none => rfl
  | some bound =>
    simp only [hbound, beq_iff_eq] at hadmits ⊢
    exact Moment.isAfter?_eq_some_false_of_dayNumber_lt (hfirst.trans hsecond.symm)
      (by rw [hsecond]; exact hsteady) (Stride.dayNumber_lt_of_index_lt hindex) hadmits

/-- From a start in a zone, a plan with a bound comes to its places in the order of their instants. Only a zone
    whose clock goes forward by more than a day at once could put a later place at an earlier instant. Nothing is
    asked of a start in no zone, or of a plan without a bound. -/
def BoundPassesOnce (plan : Plan) : Prop :=
  plan.bound ≠ none → ∀ zone, plan.start.frame = .zoned zone →
    (plan.rule.course plan.start).Pairwise fun earlier later =>
      earlier.instantTick ≤ later.instantTick

/-- Then no place is admitted after one that is not, in any frame. -/
theorem course_pairwise_admits_of_once {plan : Plan} (honce : plan.BoundPassesOnce) :
    (plan.rule.course plan.start).Pairwise fun earlier later =>
      plan.admits later = true → plan.admits earlier = true := by
  by_cases hfloating : plan.start.frame = .floating
  · exact course_pairwise_admits (by rw [hfloating]; trivial)
  cases hbound : plan.bound with
  | none =>
    refine (plan.rule.course_pairwise_index plan.start).imp ?_
    intro earlier later _ _
    unfold admits
    rw [hbound]
  | some bound =>
    have hinstants : (plan.rule.course plan.start).Pairwise fun earlier later =>
        earlier.instantTick ≤ later.instantTick := by
      by_cases hzoned : ∃ zone, plan.start.frame = .zoned zone
      · obtain ⟨zone, hzone⟩ := hzoned
        exact honce (by simp [hbound]) zone hzone
      · refine (plan.rule.course_pairwise_index plan.start).imp_of_mem ?_
        intro earlier later hearlier hlater hindex
        have hoffset : earlier.offset? = later.offset? := by
          unfold Moment.offset?
          rw [(Rule.time_frame_of_mem_course hearlier).2, (Rule.time_frame_of_mem_course hlater).2]
          cases hframe : plan.start.frame with
          | zoned zone => exact absurd ⟨zone, hframe⟩ hzoned
          | _ => rfl
        exact Int.le_of_lt (Moment.instantTick_lt_of_offset?_eq hoffset
          (Stride.dayNumber_lt_of_index_lt hindex))
    refine ((plan.rule.course_pairwise_index plan.start).and hinstants).imp_of_mem ?_
    rintro earlier later hearlier hlater ⟨hindex, hinstant⟩ hadmits
    have hfirst := (Rule.time_frame_of_mem_course hearlier).2
    have hsecond := (Rule.time_frame_of_mem_course hlater).2
    have hcivil : earlier.civil.ticks < later.civil.ticks :=
      Civil.lt_of_dayNumber_lt (Stride.dayNumber_lt_of_index_lt hindex)
    unfold admits at hadmits ⊢
    simp only [hbound, beq_iff_eq] at hadmits ⊢
    exact Moment.isAfter?_eq_some_false_of_le (hfirst.trans hsecond.symm) (by rwa [hsecond])
      (Nat.le_of_lt hcivil) hinstant hadmits

theorem visitsFrom_of_not_admits {plan : Plan} {cursor : Moment} (hadmits : plan.admits cursor = false) :
    plan.visitsFrom cursor = [] := by
  rw [visitsFrom, Rule.course, List.takeWhile_cons, hadmits]
  rfl

theorem visitsFrom_of_advance_ok {plan : Plan} {cursor next : Moment}
    (hadmits : plan.admits cursor = true) (hmove : plan.rule.advance cursor = .ok next) :
    plan.visitsFrom cursor = cursor :: plan.visitsFrom next := by
  rw [visitsFrom, Rule.course_of_advance_ok hmove, List.takeWhile_cons, hadmits]
  rfl

theorem visitsFrom_of_advance_error {plan : Plan} {cursor : Moment} {cause : CalendarError}
    (hadmits : plan.admits cursor = true) (hmove : plan.rule.advance cursor = .error cause) :
    plan.visitsFrom cursor = [cursor] := by
  rw [visitsFrom, Rule.course_of_advance_error hmove, List.takeWhile_cons, hadmits]
  rfl

theorem visitsFrom_getElem?_zero {plan : Plan} {cursor : Moment} (hadmits : plan.admits cursor = true) :
    (plan.visitsFrom cursor)[0]? = some cursor := by
  rw [visitsFrom, Rule.course, List.takeWhile_cons, hadmits]
  rfl

theorem length_visits_le (plan : Plan) : plan.visits.length ≤ plan.rule.stride.limit :=
  Nat.le_trans (List.takeWhile_sublist _).length_le (plan.rule.length_course_le plan.start)

/-- Where a candidate fails, neither its place nor a later one has an occurrence. -/
theorem visitsFrom_filterMap_of_failure {plan : Plan} {cursor : Moment} {cause : CalendarError}
    (hfail : plan.rule.candidate cursor = .error cause) :
    (plan.visitsFrom cursor).filterMap plan.rule.occurrenceAt? = [] := by
  rw [List.filterMap_eq_nil_iff]
  intro place hplace
  have hcourse := (List.takeWhile_sublist _).mem hplace
  obtain ⟨steps, hsteps⟩ := List.getElem?_of_mem hcourse
  cases steps with
  | zero =>
    rw [Rule.course, List.getElem?_cons_zero] at hsteps
    cases hsteps
    exact Rule.occurrenceAt?_of_failure hfail
  | succ steps =>
    refine Rule.occurrenceAt?_none_of_failure hfail ?_
    have hpos := plan.rule.stride_count_pos
    rw [(Rule.course_getElem? hsteps).1, Nat.succ_mul]
    omega

/-- The first `wanted` occurrences of the first `moves` places from a cursor on that the bound admits. -/
def foundFrom (plan : Plan) (cursor : Moment) (moves wanted : Nat) : List Moment :=
  (((plan.visitsFrom cursor).take moves).filterMap plan.rule.occurrenceAt?).take wanted

theorem foundFrom_of_not_admits {plan : Plan} {cursor : Moment} (hadmits : plan.admits cursor = false)
    (moves wanted : Nat) : plan.foundFrom cursor moves wanted = [] := by
  rw [foundFrom, visitsFrom_of_not_admits hadmits, List.take_nil, List.filterMap_nil, List.take_nil]

theorem foundFrom_of_failure {plan : Plan} {cursor : Moment} {cause : CalendarError}
    (hfail : plan.rule.candidate cursor = .error cause) (moves wanted : Nat) :
    plan.foundFrom cursor moves wanted = [] := by
  have hprefix := (List.take_prefix moves (plan.visitsFrom cursor)).filterMap plan.rule.occurrenceAt?
  rw [visitsFrom_filterMap_of_failure hfail, List.prefix_nil] at hprefix
  rw [foundFrom, hprefix, List.take_nil]

private theorem take_toList_append (found : Option Moment) (more : List Moment) {wanted : Nat}
    (hwanted : 1 ≤ wanted) :
    (found.toList ++ more).take wanted =
      found.toList ++ more.take (wanted - found.toList.length) := by
  have hlength : found.toList.length ≤ wanted := by
    cases found with
    | none => exact Nat.zero_le wanted
    | some occurrence => exact hwanted
  rw [List.take_append, List.take_of_length_le hlength]

theorem foundFrom_of_advance_ok {plan : Plan} {cursor next : Moment} {found : Option Moment}
    (hadmits : plan.admits cursor = true) (hmove : plan.rule.advance cursor = .ok next)
    (hcandidate : plan.rule.candidate cursor = .ok found) {moves wanted : Nat} (hmoves : 1 ≤ moves)
    (hwanted : 1 ≤ wanted) :
    plan.foundFrom cursor moves wanted =
      found.toList ++ plan.foundFrom next (moves - 1) (wanted - found.toList.length) := by
  obtain ⟨rest, rfl⟩ : ∃ rest, moves = rest + 1 := ⟨moves - 1, by omega⟩
  rw [foundFrom, visitsFrom_of_advance_ok hadmits hmove, List.take_succ_cons,
    Rule.filterMap_cons_occurrenceAt? hcandidate, take_toList_append found _ hwanted]
  rfl

theorem foundFrom_of_advance_error {plan : Plan} {cursor : Moment} {found : Option Moment}
    {cause : CalendarError} (hadmits : plan.admits cursor = true)
    (hmove : plan.rule.advance cursor = .error cause)
    (hcandidate : plan.rule.candidate cursor = .ok found) {moves wanted : Nat} (hmoves : 1 ≤ moves)
    (hwanted : 1 ≤ wanted) : plan.foundFrom cursor moves wanted = found.toList := by
  obtain ⟨rest, rfl⟩ : ∃ rest, moves = rest + 1 := ⟨moves - 1, by omega⟩
  rw [foundFrom, visitsFrom_of_advance_error hadmits hmove, List.take_succ_cons,
    Rule.filterMap_cons_occurrenceAt? hcandidate, take_toList_append found _ hwanted]
  simp

/-- The moves that a cap allows: it is tested after a move, so that there is always room for one. -/
def movesWithin (cap : Int) : Nat := max cap.toNat 1

theorem movesWithin_pos (cap : Int) : 0 < movesWithin cap := by
  unfold movesWithin
  omega

theorem le_movesWithin (cap : Int) : cap ≤ movesWithin cap := by
  unfold movesWithin
  omega

/-- Why a run whose limit is a number ends before it examines a place. -/
inductive Refuses (plan : Plan) (limit : Int) (progress : Progress) : Ending → Prop where
  | limitMet (hmet : limit ≤ progress.found.size) : Refuses plan limit progress .limitMet
  | pastBound (hadmits : plan.admits progress.cursor = false) :
      Refuses plan limit progress .pastBound
  | incomparable {fault : Fault} (hpast : plan.isPastBound progress.cursor = .error fault)
      (hadmits : plan.admits progress.cursor = false) : Refuses plan limit progress (.failed fault)
  | outside {cause : CalendarError} (hahead : (progress.found.size : Int) < limit)
      (hadmits : plan.admits progress.cursor = true)
      (hcandidate : plan.rule.candidate progress.cursor = .error cause) :
      Refuses plan limit progress (.failed (.calendar cause))

section

variable {plan : Plan} {limit : Int} (hlimit : plan.limit = .number limit)
include hlimit

theorem refuses_of_examine {progress : Progress} {ending : Ending}
    (hexamine : plan.examine progress = .error ending) : plan.Refuses limit progress ending := by
  rw [examine_eq, hlimit, Threshold.isAhead_number] at hexamine
  by_cases hahead : (progress.found.size : Int) < limit
  · rw [decide_eq_true hahead] at hexamine
    dsimp only at hexamine
    cases hpast : plan.isPastBound progress.cursor with
    | error fault =>
      have hadmits := admits_eq_false (show plan.isPastBound progress.cursor ≠ _ by simp [hpast])
      rw [hpast] at hexamine
      cases hexamine
      exact .incomparable hpast hadmits
    | ok past =>
      cases past with
      | true =>
        have hadmits := admits_eq_false (show plan.isPastBound progress.cursor ≠ _ by simp [hpast])
        rw [hpast] at hexamine
        cases hexamine
        exact .pastBound hadmits
      | false =>
        rw [hpast] at hexamine
        cases hcandidate : plan.rule.candidate progress.cursor with
        | error cause =>
          rw [hcandidate] at hexamine
          cases hexamine
          exact .outside hahead (isPastBound_eq_ok_false_iff.1 hpast) hcandidate
        | ok found =>
          rw [hcandidate] at hexamine
          cases hexamine
  · rw [decide_eq_false hahead] at hexamine
    cases hexamine
    exact .limitMet (Int.not_lt.1 hahead)

theorem admitted_of_examine {progress : Progress} {found : Option Moment}
    (hexamine : plan.examine progress = .ok found) :
    (progress.found.size : Int) < limit ∧ plan.admits progress.cursor = true ∧
      plan.rule.candidate progress.cursor = .ok found := by
  obtain ⟨hahead, hpast, hcandidate⟩ := examine_eq_ok_iff.1 hexamine
  rw [hlimit, Threshold.isAhead_number, Except.ok.injEq, decide_eq_true_eq] at hahead
  exact ⟨hahead, isPastBound_eq_ok_false_iff.1 hpast, hcandidate⟩

variable {cap : Int} (hcap : plan.cap = .number cap)
include hcap

theorem isCapped_number (found steps : Nat) :
    plan.isCapped found steps = .ok (decide (cap ≤ steps) && decide ((found : Int) < limit)) := by
  unfold isCapped
  rw [hcap, hlimit, Threshold.isAhead_number]
  simp only [Threshold.isReached, bind, Except.bind]
  by_cases hused : cap ≤ (steps : Int)
  · simp [hused]
  · simp [hused, pure, Except.pure]

/-- What a step that goes on leaves: room for a move unless the limit is met, one move less, and as many
    fewer occurrences to find as it has found. -/
theorem GoesOn.remaining {progress later : Progress} {found : Option Moment}
    (hgoes : plan.GoesOn progress found later) :
    (later.steps < movesWithin cap ∨ limit ≤ later.found.size) ∧
      movesWithin cap - later.steps = movesWithin cap - progress.steps - 1 ∧
      (limit - later.found.size).toNat =
        (limit - progress.found.size).toNat - found.toList.length := by
  have huncapped := hgoes.uncapped
  have hsize : later.found.size = progress.found.size + found.toList.length := by
    rw [hgoes.recorded, progress.record_size]
  rw [isCapped_number hlimit hcap, Except.ok.injEq, Bool.and_eq_false_iff, decide_eq_false_iff_not,
    decide_eq_false_iff_not, hgoes.counted] at huncapped
  rw [hgoes.counted]
  unfold movesWithin at *
  omega

/-- The move at which the cap ends a run is the last one that the cap allows. -/
theorem movesWithin_of_capped {found steps : Nat}
    (hcapped : plan.isCapped found (steps + 1) = .ok true) : movesWithin cap - steps - 1 = 0 := by
  rw [isCapped_number hlimit hcap, Except.ok.injEq, Bool.and_eq_true, decide_eq_true_eq] at hcapped
  unfold movesWithin
  omega

/-- A run finds the first occurrences of the places that the bound admits and the cap lets it reach, as
    many as its limit asks for, whatever ends it. A limit that is met needs no more moves. -/
theorem finish_found (progress : Progress)
    (hroom : progress.steps < movesWithin cap ∨ limit ≤ progress.found.size) :
    (plan.finish progress).last.found.toList =
      progress.found.toList ++ plan.foundFrom progress.cursor (movesWithin cap - progress.steps)
        (limit - progress.found.size).toNat := by
  refine finish_induction (P := fun progress run =>
    progress.steps < movesWithin cap ∨ limit ≤ progress.found.size →
      run.last.found.toList =
        progress.found.toList ++ plan.foundFrom progress.cursor (movesWithin cap - progress.steps)
          (limit - progress.found.size).toNat) ?_ ?_ progress hroom
  · intro progress later ending hends hroom
    cases hends with
    | refused hexamine =>
      cases refuses_of_examine hlimit hexamine with
      | limitMet hmet =>
        have hnone : (limit - progress.found.size).toNat = 0 := by omega
        rw [hnone, foundFrom, List.take_zero, List.append_nil]
      | pastBound hadmits => rw [foundFrom_of_not_admits hadmits, List.append_nil]
      | incomparable hpast hadmits => rw [foundFrom_of_not_admits hadmits, List.append_nil]
      | outside hahead hadmits hcandidate =>
        rw [foundFrom_of_failure hcandidate, List.append_nil]
    | @stuck found cause hexamine hmove =>
      obtain ⟨hahead, hadmits, hcandidate⟩ := admitted_of_examine hlimit hexamine
      rw [progress.record_found, foundFrom_of_advance_error hadmits hmove hcandidate (by omega)
        (by omega)]
    | @capped found later hexamine hmove hfound hsteps hcapped =>
      obtain ⟨hahead, hadmits, hcandidate⟩ := admitted_of_examine hlimit hexamine
      rw [hsteps] at hcapped
      have hlast := movesWithin_of_capped hlimit hcap hcapped
      rw [hfound, progress.record_found, foundFrom_of_advance_ok hadmits hmove hcandidate (by omega)
        (by omega), hlast, foundFrom, List.take_zero, List.filterMap_nil, List.take_nil,
        List.append_nil]
    | unusable hexamine hmove hfound hsteps hcapped =>
      rw [isCapped_number hlimit hcap] at hcapped
      cases hcapped
  · intro progress found later hgoes hlater hroom
    obtain ⟨hahead, hadmits, hcandidate⟩ := admitted_of_examine hlimit hgoes.examined
    obtain ⟨hlaterRoom, hmoves, hwanted⟩ := hgoes.remaining hlimit hcap
    rw [hlater hlaterRoom, hmoves, hwanted, hgoes.recorded, progress.record_found,
      foundFrom_of_advance_ok hadmits hgoes.moved hcandidate (by omega) (by omega),
      List.append_assoc]

/-- The occurrences of a run: the first ones, as many as the limit asks for, of the places that the bound
    admits and the cap lets it reach. -/
theorem occurrences_eq :
    plan.run.occurrences =
      ((plan.visits.take (movesWithin cap)).filterMap plan.rule.occurrenceAt?).take limit.toNat := by
  have hfound := finish_found hlimit hcap plan.begin (.inl (movesWithin_pos cap))
  rw [Run.occurrences, run_eq_finish, hfound]
  simp [begin, foundFrom, visits]

end

end Plan

end Recurrence
