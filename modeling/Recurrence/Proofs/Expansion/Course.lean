import Recurrence.Expansion.Run
import Recurrence.Proofs.Calendar.Stride

namespace Recurrence

namespace Moment

/-- The moment's time of day on another date, in the same frame. -/
def onDate (moment : Moment) (date : Date) : Moment :=
  ⟨⟨date, moment.civil.time⟩, moment.frame, false⟩

theorem shift_eq (moment : Moment) (unit : CalendarUnit) (amount : Int) :
    moment.shift unit amount = (moment.civil.date.shift unit amount).map moment.onDate := by
  unfold shift Civil.shift
  cases moment.civil.date.shift unit amount with
  | error cause => rfl
  | ok date => rfl

end Moment

namespace Rule

theorem effectiveInterval_pos (rule : Rule) : 1 ≤ rule.effectiveInterval := by
  unfold effectiveInterval
  cases rule.interval with
  | none => exact Nat.le_refl 1
  | some interval => exact interval.property

/-- How far one move of the cursor goes. -/
def stride (rule : Rule) : Stride :=
  if rule.usesWeekdays then .days 1
  else
    match rule.frequency with
    | .daily => .days rule.effectiveInterval
    | .weekly => .days (7 * rule.effectiveInterval)
    | .monthly => .months rule.effectiveInterval
    | .yearly => .months (12 * rule.effectiveInterval)

theorem stride_count_pos (rule : Rule) : 1 ≤ rule.stride.count := by
  have hpos := rule.effectiveInterval_pos
  unfold stride
  split
  · exact Nat.le_refl 1
  · cases rule.frequency <;> simp only [Stride.count] <;> omega

/-- A move is a stride of the date. -/
theorem advance_eq (rule : Rule) (cursor : Moment) :
    rule.advance cursor = (rule.stride.apply cursor.civil.date).map cursor.onDate := by
  unfold advance stride
  split
  · rw [Moment.shift_eq]
    rfl
  · rw [Moment.shift_eq]
    cases rule.frequency with
    | daily => rfl
    | weekly => simp only [Frequency.unit, Date.shift, Stride.apply, Int.natCast_mul]; rfl
    | monthly => simp only [Frequency.unit, Date.shift_months, Stride.apply]
    | yearly => simp only [Frequency.unit, Date.shift_years, Stride.apply, Int.natCast_mul]; rfl

theorem advance_eq_ok_iff {rule : Rule} {cursor next : Moment} :
    rule.advance cursor = .ok next ↔
      ∃ date, rule.stride.apply cursor.civil.date = .ok date ∧ cursor.onDate date = next := by
  rw [advance_eq, map_eq_ok_iff]

/-- A move fails exactly when the stride reaches past the calendar. -/
theorem advance_fails_iff {rule : Rule} {cursor : Moment} :
    (∃ cause, rule.advance cursor = .error cause) ↔
      rule.stride.limit ≤ rule.stride.index cursor.civil.date + rule.stride.count := by
  rw [advance_eq, map_fails_iff, Stride.apply_fails_iff]

theorem index_of_advance {rule : Rule} {cursor next : Moment} (hmove : rule.advance cursor = .ok next) :
    rule.stride.index next.civil.date = rule.stride.index cursor.civil.date + rule.stride.count := by
  obtain ⟨date, happly, rfl⟩ := advance_eq_ok_iff.1 hmove
  exact Stride.index_of_apply happly

/-- Every move uses up room in the calendar. -/
theorem room_lt_of_advance {rule : Rule} {cursor next : Moment}
    (hmove : rule.advance cursor = .ok next) : Plan.room next < Plan.room cursor := by
  have hindex := index_of_advance hmove
  have hpos := rule.stride_count_pos
  have hlater : cursor.civil.date.dayNumber < next.civil.date.dayNumber :=
    Stride.dayNumber_lt_of_index_lt (by rw [hindex]; omega)
  have hlast := next.civil.date.dayNumber_le_last
  unfold Plan.room
  omega

/-- The places of the cursor, from one place on until a move leaves the calendar. -/
def course (rule : Rule) (cursor : Moment) : List Moment :=
  cursor ::
    match _hmove : rule.advance cursor with
    | .ok next => course rule next
    | .error _ => []
termination_by Plan.room cursor
decreasing_by exact room_lt_of_advance _hmove

theorem course_of_advance_ok {rule : Rule} {cursor next : Moment}
    (hmove : rule.advance cursor = .ok next) : rule.course cursor = cursor :: rule.course next := by
  rw [course]
  split
  · next found hfound =>
    rw [hmove] at hfound
    cases hfound
    rfl
  · next cause hfail =>
    rw [hmove] at hfail
    cases hfail

theorem course_of_advance_error {rule : Rule} {cursor : Moment} {cause : CalendarError}
    (hfail : rule.advance cursor = .error cause) : rule.course cursor = [cursor] := by
  rw [course]
  split
  · next found hfound =>
    rw [hfail] at hfound
    cases hfound
  · rfl

/-- The place after `steps` moves lies so many strides further, at the same time of day and in the same
    frame. -/
theorem course_getElem? {rule : Rule} {cursor place : Moment} {steps : Nat}
    (hplace : (rule.course cursor)[steps]? = some place) :
    rule.stride.index place.civil.date =
        rule.stride.index cursor.civil.date + steps * rule.stride.count ∧
      place.civil.time = cursor.civil.time ∧ place.frame = cursor.frame := by
  induction steps generalizing cursor with
  | zero =>
    have hfirst : place = cursor := by
      rw [course, List.getElem?_cons_zero] at hplace
      exact (Option.some.inj hplace).symm
    subst hfirst
    exact ⟨by omega, rfl, rfl⟩
  | succ steps ih =>
    cases hmove : rule.advance cursor with
    | error cause =>
      rw [course_of_advance_error hmove] at hplace
      simp at hplace
    | ok next =>
      rw [course_of_advance_ok hmove, List.getElem?_cons_succ] at hplace
      obtain ⟨hindex, htime, hframe⟩ := ih hplace
      obtain ⟨date, -, rfl⟩ := advance_eq_ok_iff.1 hmove
      refine ⟨?_, htime, hframe⟩
      rw [hindex, index_of_advance hmove, Nat.succ_mul]
      omega

/-- The course has a place after `steps` moves exactly if so many strides stay in the calendar. -/
theorem lt_length_course_iff {rule : Rule} {cursor : Moment} {steps : Nat} :
    steps < (rule.course cursor).length ↔
      rule.stride.index cursor.civil.date + steps * rule.stride.count < rule.stride.limit := by
  induction steps generalizing cursor with
  | zero =>
    have hinside := rule.stride.index_lt_limit cursor.civil.date
    have hlength : 0 < (rule.course cursor).length := by rw [course]; exact Nat.succ_pos _
    simp only [hlength, true_iff]
    omega
  | succ steps ih =>
    cases hmove : rule.advance cursor with
    | error cause =>
      have hpast := advance_fails_iff.1 ⟨cause, hmove⟩
      rw [course_of_advance_error hmove, Nat.succ_mul]
      simp only [List.length_singleton]
      omega
    | ok next =>
      rw [course_of_advance_ok hmove, List.length_cons, Nat.succ_lt_succ_iff, ih,
        index_of_advance hmove, Nat.succ_mul]
      omega

/-- A course has no more places than the calendar has days, or months for a stride of months. -/
theorem length_course_le (rule : Rule) (cursor : Moment) :
    (rule.course cursor).length ≤ rule.stride.limit := by
  refine Nat.not_lt.1 fun hlong => ?_
  have hinside := lt_length_course_iff.1 hlong
  have hstride := Nat.le_mul_of_pos_right rule.stride.limit rule.stride_count_pos
  omega

/-- The course moves forward: each place has a larger index than every place before it. -/
theorem course_pairwise_index (rule : Rule) (cursor : Moment) :
    (rule.course cursor).Pairwise fun earlier later =>
      rule.stride.index earlier.civil.date < rule.stride.index later.civil.date := by
  rw [List.pairwise_iff_getElem]
  intro i j hi hj hlt
  obtain ⟨hearlier, -⟩ := course_getElem? (List.getElem?_eq_getElem hi)
  obtain ⟨hlater, -⟩ := course_getElem? (List.getElem?_eq_getElem hj)
  have hstrides : i * rule.stride.count < j * rule.stride.count :=
    Nat.mul_lt_mul_of_pos_right hlt rule.stride_count_pos
  omega

theorem course_getElem?_zero (rule : Rule) (cursor : Moment) :
    (rule.course cursor)[0]? = some cursor := by
  rw [course, List.getElem?_cons_zero]

/-- A place that the cursor has moved to is its first place on another date. -/
theorem course_getElem?_succ {rule : Rule} {cursor place : Moment} {steps : Nat}
    (hplace : (rule.course cursor)[steps + 1]? = some place) :
    place = cursor.onDate place.civil.date := by
  induction steps generalizing cursor with
  | zero =>
    cases hmove : rule.advance cursor with
    | error cause =>
      rw [course_of_advance_error hmove] at hplace
      cases hplace
    | ok next =>
      rw [course_of_advance_ok hmove, List.getElem?_cons_succ, course_getElem?_zero] at hplace
      obtain ⟨date, -, rfl⟩ := advance_eq_ok_iff.1 hmove
      cases hplace
      rfl
  | succ steps ih =>
    cases hmove : rule.advance cursor with
    | error cause =>
      rw [course_of_advance_error hmove] at hplace
      cases hplace
    | ok next =>
      rw [course_of_advance_ok hmove, List.getElem?_cons_succ] at hplace
      obtain ⟨date, -, hnext⟩ := advance_eq_ok_iff.1 hmove
      rw [ih hplace, ← hnext]
      rfl

/-- The first places of a course, each by the number of moves that lead to it. -/
theorem course_take (rule : Rule) (cursor : Moment) (moves : Nat) :
    (rule.course cursor).take moves =
      (List.range moves).filterMap fun steps => (rule.course cursor)[steps]? := by
  induction moves with
  | zero => rfl
  | succ moves ih =>
    rw [List.take_add_one, List.range_succ, List.filterMap_append, ← ih, List.filterMap_cons,
      List.filterMap_nil]
    cases (rule.course cursor)[moves]? <;> rfl

theorem time_frame_of_mem_course {rule : Rule} {cursor place : Moment}
    (hplace : place ∈ rule.course cursor) :
    place.civil.time = cursor.civil.time ∧ place.frame = cursor.frame := by
  obtain ⟨steps, hsteps⟩ := List.getElem?_of_mem hplace
  exact (course_getElem? hsteps).2

end Rule

end Recurrence
