import Recurrence.Proofs.Expansion.Departure
import Recurrence.Proofs.Expansion.Narrower

namespace Recurrence

/-- A place of a list that `takeWhile` comes to is taken exactly if its item is. -/
theorem lt_length_takeWhile_iff {α : Type} {p : α → Bool} {items : List α} {place : Nat} {item : α}
    (hreached : place ≤ (items.takeWhile p).length) (hitem : items[place]? = some item) :
    place < (items.takeWhile p).length ↔ p item = true := by
  induction items generalizing place with
  | nil => cases hitem
  | cons first rest ih =>
    cases hfirst : p first with
    | false =>
      rw [List.takeWhile_cons_of_neg (by simp [hfirst])] at hreached ⊢
      obtain rfl : place = 0 := Nat.le_zero.1 hreached
      cases hitem
      simp [hfirst]
    | true =>
      rw [List.takeWhile_cons_of_pos hfirst, List.length_cons] at hreached ⊢
      cases place with
      | zero =>
        cases hitem
        simp [hfirst]
      | succ place =>
        rw [List.getElem?_cons_succ] at hitem
        rw [Nat.succ_lt_succ_iff]
        exact ih (Nat.le_of_succ_le_succ hreached) hitem

namespace Plan

/-- From a cursor on, a run gets past `moves` places: the bound admits them, the rule stays inside the calendar
    at each of them, and fewer than `wanted` occurrences belong to them. -/
structure GetsPast (plan : Plan) (cursor : Moment) (moves wanted : Nat) : Prop where
  admitted : moves ≤ (plan.visitsFrom cursor).length
  inside : ∀ place ∈ (plan.visitsFrom cursor).take moves, plan.rule.StaysInside place
  few : (((plan.visitsFrom cursor).take moves).filterMap plan.rule.occurrenceAt?).length < wanted

theorem not_getsPast_of_not_admits {plan : Plan} {cursor : Moment} (hadmits : plan.admits cursor = false)
    {moves : Nat} (hmoves : 1 ≤ moves) (wanted : Nat) : ¬ plan.GetsPast cursor moves wanted := by
  intro hpast
  have hadmitted := hpast.admitted
  rw [visitsFrom_of_not_admits hadmits, List.length_nil] at hadmitted
  omega

theorem GetsPast.staysInside {plan : Plan} {cursor : Moment} {moves wanted : Nat}
    (hpast : plan.GetsPast cursor moves wanted) (hadmits : plan.admits cursor = true)
    (hmoves : 1 ≤ moves) : plan.rule.StaysInside cursor := by
  have hfirst := visitsFrom_getElem?_zero hadmits
  rw [← List.getElem?_take_of_lt hmoves] at hfirst
  exact hpast.inside cursor (List.mem_of_getElem? hfirst)

/-- A place that a run gets past counts as one move and as what it has found there. -/
theorem getsPast_of_advance_ok {plan : Plan} {cursor next : Moment} {found : Option Moment}
    (hadmits : plan.admits cursor = true) (hmove : plan.rule.advance cursor = .ok next)
    (hcandidate : plan.rule.candidate cursor = .ok found) {moves : Nat} (hmoves : 1 ≤ moves)
    (wanted : Nat) :
    plan.GetsPast cursor moves wanted ↔
      plan.GetsPast next (moves - 1) (wanted - found.toList.length) := by
  have hinside : plan.rule.StaysInside cursor :=
    Rule.staysInside_iff.2 ⟨⟨next, hmove⟩, found, hcandidate⟩
  have hvisits := visitsFrom_of_advance_ok hadmits hmove
  obtain ⟨more, rfl⟩ : ∃ more, moves = more + 1 := ⟨moves - 1, by omega⟩
  constructor
  · rintro ⟨hadmitted, hinside, hfew⟩
    rw [hvisits, List.length_cons] at hadmitted
    rw [hvisits, List.take_succ_cons] at hinside hfew
    rw [Rule.filterMap_cons_occurrenceAt? hcandidate, List.length_append] at hfew
    exact ⟨by omega, fun place hplace => hinside place (List.mem_cons_of_mem cursor hplace),
      Nat.lt_sub_iff_add_lt'.2 hfew⟩
  · rintro ⟨hadmitted, hlater, hfew⟩
    refine ⟨?_, ?_, ?_⟩
    · rw [hvisits, List.length_cons]
      omega
    · rw [hvisits, List.take_succ_cons]
      exact List.forall_mem_cons.2 ⟨hinside, hlater⟩
    · rw [hvisits, List.take_succ_cons, Rule.filterMap_cons_occurrenceAt? hcandidate, List.length_append]
      exact Nat.lt_sub_iff_add_lt'.1 hfew

theorem isComparable_of_admits {plan : Plan} {place : Moment} (hadmits : plan.admits place = true) :
    plan.IsComparable place := by
  intro bound hbound
  by_contra hdiffer
  rw [admits, hbound] at hadmits
  simp [Moment.isAfter?_eq_none_iff.2 hdiffer] at hadmits

theorem isPastBound_of_not_admits {plan : Plan} {place : Moment} (hcomparable : plan.IsComparable place)
    (hadmits : ¬ plan.admits place = true) : plan.isPastBound place = .ok true := by
  cases hpast : plan.isPastBound place with
  | error fault => exact absurd hpast (isPastBound_ne_error hcomparable fault)
  | ok past =>
    cases past with
    | true => rfl
    | false => exact absurd (isPastBound_eq_ok_false_iff.1 hpast) hadmits

/-- The last cursor of a run is the place that its moves have come to. -/
theorem finish_last_cursor (plan : Plan) (progress : Progress) :
    progress.steps ≤ (plan.finish progress).last.steps ∧
      (plan.rule.course progress.cursor)[(plan.finish progress).last.steps - progress.steps]? =
        some (plan.finish progress).last.cursor := by
  refine finish_induction (P := fun progress run => progress.steps ≤ run.last.steps ∧
    (plan.rule.course progress.cursor)[run.last.steps - progress.steps]? = some run.last.cursor)
    ?_ ?_ progress
  · intro progress later ending hends
    have hmoved : ∀ {cursor : Moment}, plan.rule.advance progress.cursor = .ok cursor →
        (plan.rule.course progress.cursor)[progress.steps + 1 - progress.steps]? = some cursor := by
      intro cursor hmove
      rw [Nat.add_sub_cancel_left, Rule.course_of_advance_ok hmove, List.getElem?_cons_succ,
        Rule.course_getElem?_zero]
    cases hends with
    | refused hexamine =>
      refine ⟨Nat.le_refl _, ?_⟩
      rw [Nat.sub_self, Rule.course_getElem?_zero]
    | stuck hexamine hmove =>
      rw [Progress.record_steps, Progress.record_cursor]
      refine ⟨Nat.le_refl _, ?_⟩
      rw [Nat.sub_self, Rule.course_getElem?_zero]
    | capped hexamine hmove hfound hsteps hcapped =>
      rw [hsteps]
      exact ⟨Nat.le_succ _, hmoved hmove⟩
    | unusable hexamine hmove hfound hsteps hcapped =>
      rw [hsteps]
      exact ⟨Nat.le_succ _, hmoved hmove⟩
  · rintro progress found later hgoes ⟨hsteps, hcursor⟩
    rw [hgoes.counted] at hsteps hcursor
    refine ⟨by omega, ?_⟩
    obtain ⟨more, hmore⟩ : ∃ more, (plan.finish later).last.steps - progress.steps = more + 1 :=
      ⟨(plan.finish later).last.steps - (progress.steps + 1), by omega⟩
    rw [hmore, Rule.course_of_advance_ok hgoes.moved, List.getElem?_cons_succ, ← hcursor]
    congr 1
    omega

section

variable {plan : Plan} {limit : Int} (hlimit : plan.limit = .number limit) {cap : Int}
  (hcap : plan.cap = .number cap)
include hlimit hcap

/-- The cap ends a run exactly if the run gets past all places that the cap allows. -/
theorem finish_capped_iff (progress : Progress)
    (hroom : progress.steps < movesWithin cap ∨ limit ≤ progress.found.size) :
    (plan.finish progress).ending = .capped ↔
      plan.GetsPast progress.cursor (movesWithin cap - progress.steps)
        (limit - progress.found.size).toNat := by
  refine finish_induction (P := fun progress run =>
    progress.steps < movesWithin cap ∨ limit ≤ progress.found.size →
      (run.ending = .capped ↔
        plan.GetsPast progress.cursor (movesWithin cap - progress.steps)
          (limit - progress.found.size).toNat)) ?_ ?_ progress hroom
  · intro progress later ending hends hroom
    cases hends with
    | refused hexamine =>
      have hother : ending ≠ .capped := by
        rintro rfl
        cases refuses_of_examine hlimit hexamine
      refine iff_of_false hother fun hpast => ?_
      have hfew := hpast.few
      cases refuses_of_examine hlimit hexamine with
      | limitMet hmet => omega
      | pastBound hadmits => exact not_getsPast_of_not_admits hadmits (by omega) _ hpast
      | incomparable _ hadmits => exact not_getsPast_of_not_admits hadmits (by omega) _ hpast
      | outside hahead hadmits hcandidate =>
        obtain ⟨-, found, hfound⟩ := Rule.staysInside_iff.1 (hpast.staysInside hadmits (by omega))
        rw [hcandidate] at hfound
        cases hfound
    | stuck hexamine hmove =>
      obtain ⟨hahead, hadmits, -⟩ := admitted_of_examine hlimit hexamine
      refine iff_of_false (by simp) fun hpast => ?_
      obtain ⟨⟨next, hnext⟩, -⟩ := Rule.staysInside_iff.1 (hpast.staysInside hadmits (by omega))
      rw [hmove] at hnext
      cases hnext
    | @capped found later hexamine hmove hfound hsteps hcapped =>
      obtain ⟨hahead, hadmits, hcandidate⟩ := admitted_of_examine hlimit hexamine
      have hsize : later.found.size = progress.found.size + found.toList.length := by
        rw [hfound, progress.record_size]
      have hstopped := hcapped
      rw [isCapped_number hlimit hcap, Except.ok.injEq, Bool.and_eq_true, decide_eq_true_eq,
        decide_eq_true_eq] at hstopped
      rw [hsteps] at hcapped
      rw [getsPast_of_advance_ok hadmits hmove hcandidate (by omega),
        movesWithin_of_capped hlimit hcap hcapped]
      refine iff_of_true rfl ⟨Nat.zero_le _, by simp, ?_⟩
      rw [List.take_zero, List.filterMap_nil, List.length_nil]
      omega
    | unusable hexamine hmove hfound hsteps hcapped =>
      rw [isCapped_number hlimit hcap] at hcapped
      cases hcapped
  · intro progress found later hgoes hlater hroom
    obtain ⟨hahead, hadmits, hcandidate⟩ := admitted_of_examine hlimit hgoes.examined
    obtain ⟨hlaterRoom, hmoves, hwanted⟩ := hgoes.remaining hlimit hcap
    rw [hlater hlaterRoom, getsPast_of_advance_ok hadmits hgoes.moved hcandidate (by omega), hmoves,
      hwanted]

/-- The cap ends a run exactly if the run has made all its moves and has found too little. -/
theorem finish_capped_iff_last (progress : Progress)
    (hroom : progress.steps < movesWithin cap ∨ limit ≤ progress.found.size) :
    (plan.finish progress).ending = .capped ↔
      (plan.finish progress).last.steps = movesWithin cap ∧
        ((plan.finish progress).last.found.size : Int) < limit := by
  refine finish_induction (P := fun progress run =>
    progress.steps < movesWithin cap ∨ limit ≤ progress.found.size →
      (run.ending = .capped ↔
        run.last.steps = movesWithin cap ∧ (run.last.found.size : Int) < limit)) ?_ ?_ progress hroom
  · intro progress later ending hends hroom
    cases hends with
    | refused hexamine =>
      have hother : ending ≠ .capped := by
        rintro rfl
        cases refuses_of_examine hlimit hexamine
      refine iff_of_false hother ?_
      rintro ⟨hsteps, hfew⟩
      dsimp only at hsteps hfew
      omega
    | stuck hexamine hmove =>
      obtain ⟨hahead, -⟩ := admitted_of_examine hlimit hexamine
      refine iff_of_false (by simp) ?_
      rintro ⟨hsteps, -⟩
      rw [Progress.record_steps] at hsteps
      omega
    | capped hexamine hmove hfound hsteps hcapped =>
      obtain ⟨hahead, -⟩ := admitted_of_examine hlimit hexamine
      rw [isCapped_number hlimit hcap, Except.ok.injEq, Bool.and_eq_true, decide_eq_true_eq,
        decide_eq_true_eq] at hcapped
      refine iff_of_true rfl ⟨?_, hcapped.2⟩
      rw [hsteps]
      unfold movesWithin at *
      omega
    | unusable hexamine hmove hfound hsteps hcapped =>
      rw [isCapped_number hlimit hcap] at hcapped
      cases hcapped
  · intro progress found later hgoes hlater hroom
    exact hlater (hgoes.remaining hlimit hcap).1

/-- A larger cap lets a run that its cap has stopped go on from the place that it has reached. -/
theorem finish_withCap_of_capped (hpos : 1 ≤ cap) {room : Int} (hroom : cap < room) (progress : Progress)
    (hsteps : progress.steps < movesWithin cap ∨ limit ≤ progress.found.size)
    (hcapped : (plan.finish progress).ending = .capped) :
    (plan.withCap room).finish progress = (plan.withCap room).finish (plan.finish progress).last := by
  refine finish_induction (P := fun progress run =>
    progress.steps < movesWithin cap ∨ limit ≤ progress.found.size → run.ending = .capped →
      (plan.withCap room).finish progress = (plan.withCap room).finish run.last)
    ?_ ?_ progress hsteps hcapped
  · intro progress later ending hends hsteps hending
    cases hends with
    | refused hexamine =>
      subst hending
      cases refuses_of_examine hlimit hexamine
    | stuck hexamine hmove => cases hending
    | @capped found later hexamine hmove hfound hcounted hcapped =>
      obtain ⟨hahead, -⟩ := admitted_of_examine hlimit hexamine
      have hfew : ¬ limit ≤ progress.found.size := Int.not_le.2 hahead
      have hless : (later.steps : Int) < room := by
        unfold movesWithin at hsteps
        omega
      have hgoes : (plan.withCap room).GoesOn progress found later := by
        refine ⟨hexamine, hmove, hfound, hcounted, ?_⟩
        rw [@isCapped_number (plan.withCap room) limit hlimit room rfl, Except.ok.injEq,
          Bool.and_eq_false_iff, decide_eq_false_iff_not]
        exact .inl (Int.not_le.2 hless)
      exact finish_of_further (step_of_goesOn hgoes)
    | unusable hexamine hmove hfound hcounted hcapped => cases hending
  · intro progress found later hgoes hlater hsteps hending
    rw [finish_of_further (step_of_goesOn (hgoes.withCap hlimit hcap (Int.le_of_lt hroom)))]
    exact hlater (hgoes.remaining hlimit hcap).1 hending

end

end Plan

/-- The cap is what has ended a run: the run has made as many moves as the cap allows and found fewer
    occurrences than its limit asks for, and the place that it has reached is not past the bound. -/
structure Run.EndedByCap (plan : Plan) (limit cap : Int) (run : Run) : Prop where
  moves : (run.last.steps : Int) = cap
  few : (run.occurrences.length : Int) < limit
  inside : plan.isPastBound run.last.cursor = .ok false

namespace Plan

section

variable {plan : Plan} {limit : Int} (hlimit : plan.limit = .number limit) {cap : Int}
  (hcap : plan.cap = .number cap) (hpos : 1 ≤ cap)
include hlimit hcap hpos

theorem reportsStop_iff_last :
    plan.run.ReportsStop plan ↔
      (plan.run.last.steps : Int) = cap ∧ (plan.run.occurrences.length : Int) < limit := by
  have hmoves : (movesWithin cap : Int) = cap := by
    unfold movesWithin
    omega
  rw [Run.reportsStop_iff, run_eq_finish,
    finish_capped_iff_last hlimit hcap plan.begin (.inl (movesWithin_pos cap)), Run.occurrences,
    Array.length_toList]
  refine and_congr_left fun _ => ?_
  omega

theorem reportsStop_iff_run_getsPast :
    plan.run.ReportsStop plan ↔ plan.GetsPast plan.start cap.toNat limit.toNat := by
  have hmoves : movesWithin cap = cap.toNat := by
    unfold movesWithin
    omega
  rw [Run.reportsStop_iff, run_eq_finish,
    finish_capped_iff hlimit hcap plan.begin (.inl (movesWithin_pos cap)), hmoves]
  simp [begin]

/-- The place that a reported run has reached comes right after those that its cap allows. -/
theorem getElem?_of_reportsStop (hstop : plan.run.ReportsStop plan) :
    (plan.rule.course plan.start)[cap.toNat]? = some plan.run.last.cursor := by
  have hsteps := ((reportsStop_iff_last hlimit hcap hpos).1 hstop).1
  have hplace : plan.run.last.steps - plan.begin.steps = cap.toNat := by
    simp only [begin]
    omega
  obtain ⟨-, hcursor⟩ := plan.finish_last_cursor plan.begin
  rwa [← run_eq_finish, hplace] at hcursor

theorem admits_last_iff (hstop : plan.run.ReportsStop plan) :
    plan.admits plan.run.last.cursor = true ↔ cap < plan.visits.length := by
  have hpast := (reportsStop_iff_run_getsPast hlimit hcap hpos).1 hstop
  rw [← lt_length_takeWhile_iff hpast.admitted (getElem?_of_reportsStop hlimit hcap hpos hstop)]
  exact Int.toNat_lt (by omega)

theorem endedByCap_iff :
    plan.run.EndedByCap plan limit cap ↔ plan.run.ReportsStop plan ∧ cap < plan.visits.length := by
  constructor
  · rintro ⟨hmoves, hfew, hinside⟩
    have hstop := (reportsStop_iff_last hlimit hcap hpos).2 ⟨hmoves, hfew⟩
    exact ⟨hstop, (admits_last_iff hlimit hcap hpos hstop).1 (isPastBound_eq_ok_false_iff.1 hinside)⟩
  · rintro ⟨hstop, hmore⟩
    obtain ⟨hmoves, hfew⟩ := (reportsStop_iff_last hlimit hcap hpos).1 hstop
    exact ⟨hmoves, hfew,
      isPastBound_eq_ok_false_iff.2 ((admits_last_iff hlimit hcap hpos hstop).2 hmore)⟩

/-- A reported run that has passed its bound with its last move is over under every larger cap. -/
theorem run_withCap_of_pastBound (hstop : plan.run.ReportsStop plan)
    (hadmits : ¬ plan.admits plan.run.last.cursor = true) {room : Int} (hroom : cap < room) :
    (plan.withCap room).run = ⟨plan.run.last, .pastBound⟩ := by
  have hfew := ((reportsStop_iff_last hlimit hcap hpos).1 hstop).2
  rw [Run.occurrences, Array.length_toList] at hfew
  -- The place has the frame of the start, which the bound admits, so that it can be compared too.
  have hpast : plan.isPastBound plan.run.last.cursor = .ok true := by
    have hfirst : plan.admits plan.start = true := by
      by_contra hrefused
      exact not_getsPast_of_not_admits (Bool.eq_false_iff.2 hrefused) (by omega) _
        ((reportsStop_iff_run_getsPast hlimit hcap hpos).1 hstop)
    have hframe := (Rule.course_getElem? (getElem?_of_reportsStop hlimit hcap hpos hstop)).2.2
    refine isPastBound_of_not_admits (fun bound hbound => ?_) hadmits
    rw [hframe]
    exact isComparable_of_admits hfirst bound hbound
  have hexamine : (plan.withCap room).examine plan.run.last = .error .pastBound := by
    have hahead : (plan.withCap room).limit.isAhead plan.run.last.found.size = .ok true := by
      rw [withCap, hlimit, Threshold.isAhead_number, decide_eq_true hfew]
    have hpassed : (plan.withCap room).isPastBound plan.run.last.cursor = .ok true := hpast
    rw [examine_eq, hahead, hpassed]
  rw [run_eq_finish, show (plan.withCap room).begin = plan.begin from rfl,
    finish_withCap_of_capped hlimit hcap hpos hroom plan.begin (.inl (movesWithin_pos cap))
      (Run.reportsStop_iff.1 hstop)]
  exact finish_of_ended (step_of_examine_error hexamine)

end

/-- A run is reported to have been stopped exactly if it has made all moves of its cap and found too little, and
    the report gives the numbers of the run. That is to say that the bound admits as many places as the cap
    allows moves, the rule stays inside the calendar at all of them, and the limit is not met there. The
    cap is what has ended the run exactly if the bound also admits the place after these. If it does not, the
    run is reported although every larger cap ends it at the same place, past its bound. -/
theorem reportsStop_iff_getsPast {rule : Rule} {given : Option Threshold} {asked : Option Moment}
    {limits : Limits} {plan : Plan} (hmake : make rule given asked limits = .ok plan)
    {limit cap : Int} (hlimit : plan.limit = .number limit) (hcap : limits.steps = .number cap)
    (hpos : 1 ≤ cap) :
    (plan.run.ReportsStop plan ↔
      (plan.run.last.steps : Int) = cap ∧ (plan.run.occurrences.length : Int) < limit) ∧
    (∀ occurrences steps shown,
      Notice.expansionStopped occurrences steps shown ∈ plan.run.remarks plan →
        occurrences = plan.run.occurrences.length ∧ (steps : Int) = cap ∧ shown = .number limit) ∧
    (plan.run.ReportsStop plan ↔ plan.GetsPast plan.start cap.toNat limit.toNat) ∧
    (plan.run.EndedByCap plan limit cap ↔
      plan.run.ReportsStop plan ∧ cap < plan.visits.length) ∧
    (plan.run.ReportsStop plan → ¬ plan.run.EndedByCap plan limit cap →
      plan.visits.length = cap ∧
        ∀ room, cap < room → (plan.withCap room).run = ⟨plan.run.last, .pastBound⟩) := by
  obtain ⟨-, -, -, hsteps⟩ := of_make hmake
  rw [hcap] at hsteps
  refine ⟨reportsStop_iff_last hlimit hsteps hpos, ?_, reportsStop_iff_run_getsPast hlimit hsteps hpos,
    endedByCap_iff hlimit hsteps hpos, fun hstop hended => ?_⟩
  · intro occurrences steps shown hnotice
    have hstop : plan.run.ReportsStop plan := ⟨occurrences, steps, shown, hnotice⟩
    rw [Run.remarks, Run.reportsStop_iff.1 hstop] at hnotice
    simp only [List.mem_cons, Notice.expansionStopped.injEq, reduceCtorEq, List.not_mem_nil, or_false,
      false_or] at hnotice
    obtain ⟨rfl, rfl, rfl⟩ := hnotice
    exact ⟨Array.length_toList.symm, ((reportsStop_iff_last hlimit hsteps hpos).1 hstop).1, hlimit⟩
  · have hshort : ¬ cap < plan.visits.length := fun hmore =>
      hended ((endedByCap_iff hlimit hsteps hpos).2 ⟨hstop, hmore⟩)
    have hreached : cap.toNat ≤ plan.visits.length :=
      ((reportsStop_iff_run_getsPast hlimit hsteps hpos).1 hstop).admitted
    refine ⟨by omega, fun room hroom => run_withCap_of_pastBound hlimit hsteps hpos hstop ?_ hroom⟩
    rwa [admits_last_iff hlimit hsteps hpos hstop]

/-- The leap day alone, of which five are asked for: one move finds it and passes the bound. -/
def leapDayOnly : Plan := ⟨{ start := some .leapDay }, .leapDay, .number 5, some .leapDay, .number 1⟩

/-- The run is reported to have been stopped after one move, which has taken it past its bound. -/
theorem leapDayOnly_reportsStop :
    make leapDayOnly.rule (some (.number 5)) (some .leapDay) ⟨.number 1000, .number 1⟩ = .ok leapDayOnly ∧
      leapDayOnly.run.ReportsStop leapDayOnly ∧ ¬ leapDayOnly.run.EndedByCap leapDayOnly 5 1 ∧
      (leapDayOnly.withCap 9).run = ⟨leapDayOnly.run.last, .pastBound⟩ := by
  have hplan : make leapDayOnly.rule (some (.number 5)) (some .leapDay) ⟨.number 1000, .number 1⟩ =
      .ok leapDayOnly := rfl
  have hrun : leapDayOnly.run.ending = .capped := by
    rw [run_eq_finish, finish_of_ended rfl]
  obtain ⟨-, -, -, hended, hover⟩ := reportsStop_iff_getsPast hplan rfl rfl (by decide)
  have hstop : leapDayOnly.run.ReportsStop leapDayOnly := Run.reportsStop_iff.2 hrun
  have hnot : ¬ leapDayOnly.run.EndedByCap leapDayOnly 5 1 := by
    rintro ⟨-, -, hinside⟩
    rw [run_eq_finish, finish_of_ended rfl] at hinside
    cases hinside
  exact ⟨hplan, hstop, hnot, (hover hstop hnot).2 9 (by decide)⟩

end Plan

end Recurrence
