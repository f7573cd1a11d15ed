import Recurrence.Proofs.Moment.Order
import Recurrence.Proofs.Zone.Joined

namespace Recurrence

namespace Zone

/-- No change of the zone's clock comes within three days of a civil time. -/
def IsCalmAt (zone : Zone) (civil : Civil) : Prop :=
  ∀ change ∈ zone.changesThrough (civil.date.year + 2),
    change.instant + 259200 ≤ civil.epochSecond ∨ civil.epochSecond + 259200 ≤ change.instant

instance (zone : Zone) (civil : Civil) : Decidable (zone.IsCalmAt civil) :=
  inferInstanceAs (Decidable (∀ change ∈ zone.changesThrough (civil.date.year + 2),
    change.instant + 259200 ≤ civil.epochSecond ∨ civil.epochSecond + 259200 ≤ change.instant))

/-- Away from its changes a zone has one phase for a day and a half to either side, whichever pass is asked for. -/
theorem phaseOf_of_isCalmAt {zone : Zone} (hjoined : zone.IsJoined) {civil near : Civil}
    (hcalm : zone.IsCalmAt civil) (hlower : civil.epochSecond ≤ near.epochSecond + 129600)
    (hupper : near.epochSecond ≤ civil.epochSecond + 129600) (fold pass : Bool) :
    zone.phaseOf near fold = zone.phaseOf civil pass := by
  have hyear : near.date.year < civil.date.year + 2 := by
    refine Nat.lt_of_not_le fun hlate => ?_
    have hstart := near.le_epochSecond
    have hend := civil.epochSecond_lt
    have hyears := monthSecond_add_le (show 12 ≤ 12 * (civil.date.year + 1) by omega)
      (show 12 * (civil.date.year + 1) < 12 * near.date.year by omega)
    omega
  rw [phaseOf_eq hjoined hyear, phaseOf_eq hjoined (show civil.date.year < civil.date.year + 2 by omega),
    Timetable.phaseOf, Timetable.phaseOf]
  congr 2
  apply List.find?_congr
  intro change hmem
  have hbefore := (zone.timetable hjoined _).before_between hmem
  have hafter := (zone.timetable hjoined _).after_between change hmem
  have haway := hcalm change hmem
  unfold Change.civilSecond
  rw [decide_eq_decide]
  cases fold <;> cases pass <;> simp only [Bool.false_eq_true, if_true, if_false] <;> omega

end Zone

namespace Moment

/-- The first of two bounds is no later than the second, as moments compare; nothing is later than no bound. -/
def EndsNoLater : Option Moment → Option Moment → Prop
  | _, none => True
  | none, some _ => False
  | some bound, some wider => bound.isAfter? wider = some false

instance : DecidableRel EndsNoLater
  | _, none => isTrue trivial
  | none, some _ => isFalse id
  | some bound, some wider => inferInstanceAs (Decidable (bound.isAfter? wider = some false))

/-- What lets a run come to two bounds in the order that they compare in. Two bounds in one zone that is not the
    start's are compared by its wall clock, but the run reads their instants. A bound in the start's zone the run
    reads on the wall clock, but a bound outside that zone compares with it by instants: what the clock shows up to
    the first bound must have come by then, and what has come by the second one must be shown up to there. -/
structure MeetsInOrder (start bound wider : Moment) : Prop where
  away : start.sameZone bound = false → bound.sameZone wider = true → bound.instantTick ≤ wider.instantTick
  near : start.sameZone bound = true → start.sameZone wider = false → ∀ place : Moment,
    place.frame = start.frame → place.civil.ticks ≤ bound.civil.ticks → place.instantTick ≤ bound.instantTick
  far : start.sameZone bound = false → start.sameZone wider = true → ∀ place : Moment,
    place.frame = start.frame → place.instantTick ≤ wider.instantTick → place.civil.ticks ≤ wider.civil.ticks

theorem sameZone_comm (a b : Moment) : a.sameZone b = b.sameZone a := by
  unfold sameZone
  cases a.frame <;> cases b.frame <;> first | rfl | exact Bool.beq_comm

theorem sameZone_of_sameZone {a b : Moment} (hsame : a.sameZone b = true) (other : Moment) :
    a.sameZone other = b.sameZone other := by
  unfold sameZone at hsame ⊢
  split at hsame
  · next hfirst hsecond =>
    rw [hfirst, hsecond]
    cases other.frame with
    | zoned zone => simp only [eq_of_beq hsame]
    | _ => rfl
  · cases hsame

theorem endsNoLater_refl (bound : Option Moment) : EndsNoLater bound bound := by
  cases bound with
  | none => trivial
  | some bound =>
    unfold EndsNoLater isAfter?
    cases hoffset : bound.offset? with
    | none => simp [hoffset, Civil.lt_iff]
    | some offset => simp [hoffset, Civil.lt_iff]

theorem meetsInOrder_refl (start bound : Moment) : start.MeetsInOrder bound bound where
  away _ _ := Int.le_refl _
  near hnear hfar := by rw [hnear] at hfar; cases hfar
  far hnear hfar := by rw [hnear] at hfar; cases hfar

/-- A place that is not after the first bound is not after the second one either. -/
theorem MeetsInOrder.isAfter? {start bound wider place : Moment} (hmeets : start.MeetsInOrder bound wider)
    (hends : EndsNoLater (some bound) (some wider)) (hframe : place.frame = start.frame)
    (haware : start.frame ≠ .floating) (hwider : wider.frame ≠ .floating)
    (hbound : place.isAfter? bound = some false) : place.isAfter? wider = some false := by
  have hplace : place.frame ≠ .floating := by rwa [hframe]
  have hcomparable := frame_ne_floating_of_isAfter? hplace hbound
  have hzones := sameZone_of_frame_eq hframe
  cases hnear : start.sameZone bound with
  | true =>
    rw [isAfter?_eq_some_false_iff_civil hplace hcomparable ((hzones bound).trans hnear)] at hbound
    have hapart := sameZone_of_sameZone hnear wider
    cases hfar : start.sameZone wider with
    | true =>
      rw [EndsNoLater, isAfter?_eq_some_false_iff_civil hcomparable hwider (hapart.symm.trans hfar)] at hends
      rw [isAfter?_eq_some_false_iff_civil hplace hwider ((hzones wider).trans hfar)]
      exact Nat.le_trans hbound hends
    | false =>
      rw [EndsNoLater, isAfter?_eq_some_false_iff_instant hcomparable hwider (hapart.symm.trans hfar)] at hends
      rw [isAfter?_eq_some_false_iff_instant hplace hwider ((hzones wider).trans hfar)]
      exact Int.le_trans (hmeets.near hnear hfar place hframe hbound) hends
  | false =>
    rw [isAfter?_eq_some_false_iff_instant hplace hcomparable ((hzones bound).trans hnear)] at hbound
    cases hfar : start.sameZone wider with
    | true =>
      have hapart : bound.sameZone wider = false := by
        rw [sameZone_comm, ← sameZone_of_sameZone hfar, hnear]
      rw [EndsNoLater, isAfter?_eq_some_false_iff_instant hcomparable hwider hapart] at hends
      rw [isAfter?_eq_some_false_iff_civil hplace hwider ((hzones wider).trans hfar)]
      exact hmeets.far hnear hfar place hframe (Int.le_trans hbound hends)
    | false =>
      have hinstants : bound.instantTick ≤ wider.instantTick := by
        cases hboth : bound.sameZone wider with
        | true => exact hmeets.away hnear hboth
        | false => exact (isAfter?_eq_some_false_iff_instant hcomparable hwider hboth).1 hends
      rw [isAfter?_eq_some_false_iff_instant hplace hwider ((hzones wider).trans hfar)]
      exact Int.le_trans hbound hinstants

/-- Away from the changes of its zone's clock a bound has the zone's moments on the same side by their wall clocks as
    by their instants. -/
theorem civil_le_iff_of_isCalmAt {zone : Zone} (hjoined : zone.IsJoined) {bound place : Moment}
    (hframe : bound.frame = .zoned zone) (hcalm : zone.IsCalmAt bound.civil) (hplace : place.frame = .zoned zone) :
    place.civil.ticks ≤ bound.civil.ticks ↔ place.instantTick ≤ bound.instantTick := by
  have hphases : ∀ moment : Moment, moment.frame = .zoned zone →
      moment.instantTick =
        moment.civil.ticks - (zone.phaseOf moment.civil moment.fold).offset * 1000000 := by
    intro moment hmoment
    rw [instantTick, offset?, hmoment]
    rfl
  have hbounds := fun civil fold => hjoined.offsets _ (zone.phaseOf_offset_mem civil fold)
  have hfirst := hbounds place.civil place.fold
  have hsecond := hbounds bound.civil bound.fold
  rw [hphases place hplace, hphases bound hframe]
  have hplaceTicks := place.civil.ticks_eq
  have hboundTicks := bound.civil.ticks_eq
  have hplaceMicro := place.civil.time.micro_lt
  have hboundMicro := bound.civil.time.micro_lt
  by_cases hclose : bound.civil.epochSecond ≤ place.civil.epochSecond + 129600 ∧
      place.civil.epochSecond ≤ bound.civil.epochSecond + 129600
  · rw [Zone.phaseOf_of_isCalmAt hjoined hcalm hclose.1 hclose.2 place.fold bound.fold]
    omega
  · omega

end Moment

end Recurrence
