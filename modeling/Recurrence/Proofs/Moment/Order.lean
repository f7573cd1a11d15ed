import Recurrence.Moment.Basic

namespace Recurrence

namespace Civil

theorem lt_iff {a b : Civil} : a < b ↔ a.ticks < b.ticks := Iff.rfl

/-- A civil time on an earlier date is earlier, whatever the times of day. -/
theorem lt_of_dayNumber_lt {a b : Civil} (hlt : a.date.dayNumber < b.date.dayNumber) : a < b := by
  have hday := a.time.ticks_lt
  have hdays : (a.date.dayNumber + 1) * ticksPerDay ≤ b.date.dayNumber * ticksPerDay :=
    Nat.mul_le_mul_right _ hlt
  change a.ticks < b.ticks
  unfold ticks
  rw [Nat.succ_mul] at hdays
  unfold ticksPerDay at *
  omega

end Civil

/-- A frame whose offset never changes: a fixed one, or none at all. -/
def Frame.IsSteady : Frame → Prop
  | .floating => True
  | .fixed _ => True
  | .zoned _ => False
  | .anchored _ _ => False

namespace Moment

theorem offset?_eq_none_iff {moment : Moment} : moment.offset? = none ↔ moment.frame = .floating := by
  unfold offset?
  cases moment.frame <;> simp

/-- Moments cannot be compared exactly if one is floating and the other is not. -/
theorem isAfter?_eq_none_iff {a b : Moment} :
    a.isAfter? b = none ↔ ¬ (a.frame = .floating ↔ b.frame = .floating) := by
  rw [← offset?_eq_none_iff, ← offset?_eq_none_iff]
  unfold isAfter?
  cases a.offset? with
  | none => cases b.offset? <;> simp
  | some offset =>
    cases b.offset? with
    | none => simp
    | some other =>
      simp only [reduceCtorEq, iff_self, not_true_eq_false, iff_false]
      split <;> simp

theorem sameZone_of_frame_eq {a b : Moment} (hframe : a.frame = b.frame) (other : Moment) :
    a.sameZone other = b.sameZone other := by
  unfold sameZone
  rw [hframe]

section

variable {a b : Moment} (ha : a.frame ≠ .floating) (hb : b.frame ≠ .floating)
include ha hb

/-- In one zone two moments are compared by their wall clocks. -/
theorem isAfter?_eq_some_false_iff_civil (hzone : a.sameZone b = true) :
    a.isAfter? b = some false ↔ a.civil.ticks ≤ b.civil.ticks := by
  obtain ⟨offset, hoffset⟩ := Option.ne_none_iff_exists'.1 (mt offset?_eq_none_iff.1 ha)
  obtain ⟨other, hother⟩ := Option.ne_none_iff_exists'.1 (mt offset?_eq_none_iff.1 hb)
  simp only [isAfter?, hoffset, hother, hzone, if_true, Option.some.injEq, decide_eq_false_iff_not,
    Civil.lt_iff, Nat.not_lt]

/-- Outside one zone two moments neither of which is floating are compared by their instants. -/
theorem isAfter?_eq_some_false_iff_instant (hzone : a.sameZone b = false) :
    a.isAfter? b = some false ↔ a.instantTick ≤ b.instantTick := by
  obtain ⟨offset, hoffset⟩ := Option.ne_none_iff_exists'.1 (mt offset?_eq_none_iff.1 ha)
  obtain ⟨other, hother⟩ := Option.ne_none_iff_exists'.1 (mt offset?_eq_none_iff.1 hb)
  simp only [isAfter?, hoffset, hother, hzone, Bool.false_eq_true, if_false, Option.some.injEq,
    decide_eq_false_iff_not, Int.not_lt]

end

theorem frame_ne_floating_of_isAfter? {a b : Moment} {later : Bool} (ha : a.frame ≠ .floating)
    (hafter : a.isAfter? b = some later) : b.frame ≠ .floating := by
  intro hfloating
  rw [isAfter?_eq_none_iff.2 fun hsame => ha (hsame.2 hfloating)] at hafter
  cases hafter

/-- With one offset, a later date is a later instant. -/
theorem instantTick_lt_of_offset?_eq {a b : Moment} (hoffset : a.offset? = b.offset?)
    (hlt : a.civil.date.dayNumber < b.civil.date.dayNumber) : a.instantTick < b.instantTick := by
  have hcivil : a.civil.ticks < b.civil.ticks := Civil.lt_of_dayNumber_lt hlt
  unfold instantTick
  rw [hoffset]
  omega

/-- What is not after a bound has nothing after it that is earlier both on its wall clock and as an instant. -/
theorem isAfter?_eq_some_false_of_le {a b bound : Moment} (hframe : a.frame = b.frame)
    (haware : b.frame ≠ .floating) (hcivil : a.civil.ticks ≤ b.civil.ticks)
    (hinstant : a.instantTick ≤ b.instantTick) (hbound : b.isAfter? bound = some false) :
    a.isAfter? bound = some false := by
  have hcomparable := frame_ne_floating_of_isAfter? haware hbound
  have hplace : a.frame ≠ .floating := by rwa [hframe]
  have hzones := sameZone_of_frame_eq hframe bound
  cases hzone : b.sameZone bound with
  | true =>
    rw [isAfter?_eq_some_false_iff_civil haware hcomparable hzone] at hbound
    rw [isAfter?_eq_some_false_iff_civil hplace hcomparable (hzones.trans hzone)]
    exact Nat.le_trans hcivil hbound
  | false =>
    rw [isAfter?_eq_some_false_iff_instant haware hcomparable hzone] at hbound
    rw [isAfter?_eq_some_false_iff_instant hplace hcomparable (hzones.trans hzone)]
    exact Int.le_trans hinstant hbound

/-- Moments of one steady frame are ordered as their civil times. -/
theorem isAfter?_of_isSteady {a b : Moment} (hframe : a.frame = b.frame)
    (hsteady : b.frame.IsSteady) : a.isAfter? b = some (decide (b.civil < a.civil)) := by
  unfold isAfter? instantTick offset? sameZone
  rw [hframe]
  cases hb : b.frame with
  | floating => rfl
  | fixed offset =>
    simp only [Bool.false_eq_true, if_false, Option.getD_some, Option.some.injEq, decide_eq_decide]
    change _ ↔ b.civil.ticks < a.civil.ticks
    omega
  | zoned zone =>
    rw [hb] at hsteady
    exact hsteady.elim
  | anchored zone offset =>
    rw [hb] at hsteady
    exact hsteady.elim

/-- In a steady frame a moment on a later date is later. -/
theorem isAfter?_of_dayNumber_lt {a b : Moment} (hframe : a.frame = b.frame)
    (hsteady : b.frame.IsSteady) (hlt : b.civil.date.dayNumber < a.civil.date.dayNumber) :
    a.isAfter? b = some true := by
  rw [isAfter?_of_isSteady hframe hsteady, decide_eq_true (Civil.lt_of_dayNumber_lt hlt)]

/-- In a steady frame, what is not after a bound has nothing on an earlier date after it. -/
theorem isAfter?_eq_some_false_of_dayNumber_lt {a b bound : Moment} (hframe : a.frame = b.frame)
    (hsteady : b.frame.IsSteady) (hlt : a.civil.date.dayNumber < b.civil.date.dayNumber)
    (hbound : b.isAfter? bound = some false) : a.isAfter? bound = some false := by
  have hcivil : a.civil.ticks < b.civil.ticks := Civil.lt_of_dayNumber_lt hlt
  cases hb : b.frame with
  | floating =>
    have hcomparable : b.frame = .floating ↔ bound.frame = .floating := by
      refine Decidable.byContradiction fun hapart => ?_
      rw [isAfter?_eq_none_iff.2 hapart] at hbound
      cases hbound
    have hsame : bound.frame = .floating := hcomparable.1 hb
    rw [isAfter?_of_isSteady (hb.trans hsame.symm) (by rw [hsame]; trivial), Option.some.injEq,
      decide_eq_false_iff_not, Civil.lt_iff] at hbound
    rw [isAfter?_of_isSteady (hframe.trans (hb.trans hsame.symm)) (by rw [hsame]; trivial),
      Option.some.injEq, decide_eq_false_iff_not, Civil.lt_iff]
    omega
  | fixed offset =>
    have hoffset : a.offset? = b.offset? := by
      unfold offset?
      rw [hframe, hb]
    exact isAfter?_eq_some_false_of_le hframe (by simp [hb]) (Nat.le_of_lt hcivil)
      (Int.le_of_lt (instantTick_lt_of_offset?_eq hoffset hlt)) hbound
  | zoned zone =>
    rw [hb] at hsteady
    exact hsteady.elim
  | anchored zone offset =>
    rw [hb] at hsteady
    exact hsteady.elim

/-- The first leap day of the century. -/
def leapDay : Moment :=
  .utc ⟨⟨2000, 2, 29, by decide, by decide, by decide, by decide, by decide, by decide⟩, .midnight⟩

end Moment

end Recurrence
