import Recurrence.Expansion.Projection
import Recurrence.Proofs.Calendar.DayNumber
import Recurrence.Proofs.Outcome

namespace Recurrence

theorem TimeOfDay.ticks_ofTicks {tick : Nat} (hday : tick < 86400000000) :
    (ofTicks tick).ticks = tick := by
  simp only [ofTicks, ticks, secondOfDay]
  omega

namespace Civil

/-- The first tick after the calendar. -/
def endTick : Nat := (Date.lastDayNumber + 1) * ticksPerDay

theorem ofTicks_fails_iff {tick : Int} :
    (∃ cause, ofTicks tick = .error cause) ↔ tick < ticksPerDay ∨ (endTick : Int) ≤ tick := by
  have houtside : tick / ticksPerDay < 1 ∨ (Date.lastDayNumber : Int) < tick / ticksPerDay ↔
      tick < ticksPerDay ∨ (endTick : Int) ≤ tick := by
    unfold endTick ticksPerDay
    omega
  rw [← houtside, ← Date.ofDayNumber?_eq_none_iff]
  unfold ofTicks
  cases Date.ofDayNumber? (tick / ticksPerDay) with
  | none => simp
  | some date => simp

theorem ofTicks_ticks (civil : Civil) : ofTicks civil.ticks = .ok civil := by
  have hday := civil.time.ticks_lt
  have hticks : civil.ticks = civil.date.dayNumber * ticksPerDay + civil.time.ticks := rfl
  have hnumber : (civil.ticks : Int) / ticksPerDay = civil.date.dayNumber := by
    unfold ticksPerDay at *
    omega
  have hrest : ((civil.ticks : Int) % ticksPerDay).toNat = civil.time.ticks := by
    unfold ticksPerDay at *
    omega
  have hdate := Date.ofDayNumber?_eq_some_iff.2 (rfl : (civil.date.dayNumber : Int) = _)
  rw [ofTicks, hnumber, hdate, hrest, TimeOfDay.ofTicks_ticks]

theorem ofTicks_eq_ok_iff {tick : Int} {civil : Civil} :
    ofTicks tick = .ok civil ↔ (civil.ticks : Int) = tick := by
  constructor
  · intro hplaced
    unfold ofTicks at hplaced
    split at hplaced
    · next date hdate =>
      have hnumber := Date.ofDayNumber?_eq_some_iff.1 hdate
      cases hplaced
      have hrest : (tick % ticksPerDay).toNat < 86400000000 := by
        unfold ticksPerDay
        omega
      rw [ticks, TimeOfDay.ticks_ofTicks hrest]
      dsimp only
      unfold ticksPerDay at *
      omega
    · cases hplaced
  · rintro rfl
    exact ofTicks_ticks civil

theorem addSeconds_eq_ok_iff {civil later : Civil} {amount : Int} :
    civil.addSeconds amount = .ok later ↔ (later.ticks : Int) = civil.ticks + amount * 1000000 :=
  ofTicks_eq_ok_iff

theorem addSeconds_zero (civil : Civil) : civil.addSeconds 0 = .ok civil := by
  rw [addSeconds, addTicks, Int.zero_mul, Int.add_zero, ofTicks_ticks]

end Civil

namespace Moment

/-- Universal time shows the instant that a moment means. -/
theorem toUtc_eq_ok_iff {moment : Moment} {utc : Civil} :
    moment.toUtc = .ok utc ↔ (utc.ticks : Int) = moment.instantTick := by
  rw [toUtc, Civil.addSeconds_eq_ok_iff, instantTick, Int.neg_mul, Int.sub_eq_add_neg]

theorem toUtc_of_utc {moment : Moment} (hframe : moment.frame = .utc) :
    moment.toUtc = .ok moment.civil := by
  unfold toUtc offset?
  rw [hframe]
  exact moment.civil.addSeconds_zero

/-- The offset that a zone has at the moment's instant. -/
def offsetIn (moment : Moment) (zone : Zone) : Int :=
  match moment.toUtc with
  | .ok utc => (zone.phaseAt utc).offset
  | .error _ => 0

/-- A moment of a zone's clock with another time of day, to the second. -/
def atClock (moment : Moment) (time : TimeOfDay) : Moment :=
  ⟨⟨moment.civil.date, time.wholeSecond⟩, moment.frame, moment.fold⟩

theorem isIn_exact_iff {moment : Moment} {zone : Zone} :
    moment.isIn (.exact zone) = true ↔ ∃ here, moment.frame = .zoned here ∧ here.name = zone.name := by
  unfold isIn
  cases moment.frame with
  | zoned here => simp
  | floating => simp
  | fixed offset => simp
  | anchored here offset => simp

theorem isIn_of_frame {a b : Moment} (hframe : b.frame = a.frame) (target : TargetZone) :
    b.isIn target = a.isIn target := by
  unfold isIn
  rw [hframe]

theorem isIn_exact_of_unzoned {moment : Moment} (hunzoned : ∀ here, moment.frame ≠ .zoned here)
    (zone : Zone) : moment.isIn (.exact zone) = false := by
  rw [Bool.eq_false_iff, ne_eq, isIn_exact_iff]
  rintro ⟨here, hframe, -⟩
  exact hunzoned here hframe

theorem toZone_exact_of_isIn {moment : Moment} {zone : Zone}
    (hhome : moment.isIn (.exact zone) = true) : moment.toZone (.exact zone) = .ok moment := by
  rw [toZone, if_pos hhome]

/-- Away from its own clock, a zone shows an instant with the offset that it has then. -/
theorem toZone_exact_eq_ok {moment shown : Moment} {zone : Zone}
    (haway : moment.isIn (.exact zone) = false) (hshown : moment.toZone (.exact zone) = .ok shown) :
    ∃ utc, moment.toUtc = .ok utc ∧ shown.frame = .zoned zone ∧
      (shown.civil.ticks : Int) = moment.instantTick + moment.offsetIn zone * 1000000 := by
  unfold toZone at hshown
  rw [haway] at hshown
  cases hutc : moment.toUtc with
  | error cause =>
    rw [hutc] at hshown
    cases hshown
  | ok utc =>
    rw [hutc] at hshown
    change (utc.addSeconds (zone.phaseAt utc).offset).map
      (fun civil => (⟨civil, .zoned zone, zone.foldAt utc⟩ : Moment)) = .ok shown at hshown
    obtain ⟨civil, hcivil, rfl⟩ := map_eq_ok_iff.1 hshown
    have hinstant := toUtc_eq_ok_iff.1 hutc
    have hticks := Civil.addSeconds_eq_ok_iff.1 hcivil
    refine ⟨utc, rfl, rfl, ?_⟩
    simp only [offsetIn, hutc]
    omega

/-- A time of day is pinned on the date that the zone's clock shows. -/
theorem pin_exact (moment : Moment) (zone : Zone) (time : TimeOfDay) :
    moment.pin (.exact zone) time = (moment.toZone (.exact zone)).map (·.atClock time) := by
  unfold pin
  cases hshown : moment.toZone (.exact zone) with
  | error cause => rfl
  | ok shown =>
    obtain ⟨here, hframe⟩ : ∃ here, shown.frame = .zoned here := by
      cases hhome : moment.isIn (.exact zone) with
      | false =>
        obtain ⟨-, -, hframe, -⟩ := toZone_exact_eq_ok hhome hshown
        exact ⟨zone, hframe⟩
      | true =>
        rw [toZone_exact_of_isIn hhome] at hshown
        cases hshown
        obtain ⟨here, hframe, -⟩ := isIn_exact_iff.1 hhome
        exact ⟨here, hframe⟩
    simp only [bind, Except.bind, Except.map, setWallClock, atClock, hframe]

/-- Of two moments that read their clocks alike, in one frame whose offset does not depend on the clock, the
    later one is as many days of instants after the other as its date is. -/
theorem instantTick_sub {a b : Moment} (hframe : ∀ here, a.frame ≠ .zoned here)
    (hsame : b.frame = a.frame) (htime : b.civil.time = a.civil.time) :
    b.instantTick - a.instantTick =
      ((b.civil.date.dayNumber : Int) - a.civil.date.dayNumber) * Civil.ticksPerDay := by
  have hoffset : b.offset? = a.offset? := by
    unfold offset?
    rw [hsame]
    cases hmoment : a.frame with
    | zoned here => exact absurd hmoment (hframe here)
    | floating => rfl
    | fixed offset => rfl
    | anchored here offset => rfl
  unfold instantTick Civil.ticks Civil.ticksPerDay
  rw [hoffset, htime]
  omega

/-- A moment of universal time is pinned in such a zone on the date that the zone's clock shows. -/
theorem pin_exact_of_utc {moment : Moment} (hframe : moment.frame = .utc) (zone : Zone)
    (time : TimeOfDay) :
    moment.pin (.exact zone) time =
      (moment.civil.addSeconds (zone.phaseAt moment.civil).offset).map fun shown =>
        ⟨⟨shown.date, time.wholeSecond⟩, .zoned zone, zone.foldAt moment.civil⟩ := by
  have helsewhere : moment.isIn (.exact zone) = false := by
    unfold isIn
    rw [hframe]
    rfl
  unfold pin toZone
  rw [helsewhere, toUtc_of_utc hframe]
  simp only [Bool.false_eq_true, if_false, TargetZone.ofUtc, bind, Except.bind]
  cases moment.civil.addSeconds (zone.phaseAt moment.civil).offset with
  | error cause => rfl
  | ok shown => rfl

/-- Pinning there fails exactly if the zone's clock shows no time of the calendar. -/
theorem pin_exact_fails_iff {moment : Moment} (hframe : moment.frame = .utc) {zone : Zone}
    {time : TimeOfDay} :
    (∃ cause, moment.pin (.exact zone) time = .error cause) ↔
      moment.civil.ticks + (zone.phaseAt moment.civil).offset * 1000000 < Civil.ticksPerDay ∨
        (Civil.endTick : Int) ≤
          moment.civil.ticks + (zone.phaseAt moment.civil).offset * 1000000 := by
  rw [pin_exact_of_utc hframe, map_fails_iff, Civil.addSeconds, Civil.addTicks,
    Civil.ofTicks_fails_iff]

end Moment

end Recurrence
