import Recurrence.Proofs.Expansion.GenerateFailure
import Recurrence.Proofs.Expansion.Walked

namespace Recurrence

namespace ZoneMemory

/-- What is remembered after a search is what a new search finds. -/
theorem find_snd_faithful {zones : ZoneDatabase} {memory : ZoneMemory} (hfaithful : memory.Faithful zones)
    (name : String) : (memory.find zones name).2.Faithful zones := by
  unfold find
  cases hrecall : memory.remembered? name with
  | some zone => exact hfaithful
  | none =>
    cases hsearch : zones.search name with
    | error error => exact hfaithful
    | ok zone =>
      intro other found hfound
      unfold remembered? at hfound
      by_cases hname : name = other
      · subst hname
        rw [List.find?_cons_of_pos (by simp)] at hfound
        cases hfound
        exact hsearch
      · rw [List.find?_cons_of_neg (by simpa using hname)] at hfound
        exact hfaithful other found hfound

theorem findValue_of_faithful {zones : ZoneDatabase} {memory : ZoneMemory} (hfaithful : memory.Faithful zones)
    (zone : Value) :
    (memory.findValue zones zone).1 = zones.searchValue zone ∧
      (memory.findValue zones zone).2.Faithful zones := by
  cases zone with
  | text name => exact ⟨find_fst_of_faithful hfaithful name, find_snd_faithful hfaithful name⟩
  | _ => exact ⟨rfl, hfaithful⟩

/-- An occurrence projected on its own: the reference time is read, the zone is looked up, and the
    moment is pinned and written. What is remembered afterwards comes with it. -/
def project (memory : ZoneMemory) (zones : ZoneDatabase) (zone clock : Value) (moment : Moment) :
    Except Fault String × ZoneMemory :=
  match wallClockOf clock with
  | .error cause => (.error (.time cause), memory)
  | .ok time =>
    (match (memory.findValue zones zone).1 with
      | .error cause => .error (.time cause)
      | .ok target => (Projection.project ⟨target, time⟩ moment).mapError .calendar,
      (memory.findValue zones zone).2)

end ZoneMemory

/-- The written form of an occurrence in a zone and at a reference time, with nothing remembered. -/
def projectAlone (zones : ZoneDatabase) (zone clock : Value) (moment : Moment) : Except Fault String :=
  (ZoneMemory.project {} zones zone clock moment).1

theorem ZoneMemory.project_of_faithful {zones : ZoneDatabase} {memory : ZoneMemory}
    (hfaithful : memory.Faithful zones) (zone clock : Value) (moment : Moment) :
    (memory.project zones zone clock moment).1 = projectAlone zones zone clock moment ∧
      (memory.project zones zone clock moment).2.Faithful zones := by
  obtain ⟨hfound, hlater⟩ := findValue_of_faithful hfaithful zone
  obtain ⟨hfresh, -⟩ := findValue_of_faithful (@empty_faithful zones) zone
  unfold projectAlone project
  cases wallClockOf clock with
  | error cause => exact ⟨rfl, hfaithful⟩
  | ok time =>
    dsimp only
    rw [hfound, hfresh]
    exact ⟨rfl, hlater⟩

/-- Occurrences taken from a walk one by one, each projected before the next is asked for. -/
inductive Interleaves (zones : ZoneDatabase) (zone clock : Value) :
    Walk → ZoneMemory → Except Fault (List String) → Prop where
  | finished {walk later : Walk} {memory : ZoneMemory} {ending : Ending}
      (hnext : walk.next = (.error ending, later)) (hended : ¬ ending.IsFailure) :
      Interleaves zones zone clock walk memory (.ok [])
  | broken {walk later : Walk} {memory : ZoneMemory} {fault : Fault}
      (hnext : walk.next = (.error (.failed fault), later)) :
      Interleaves zones zone clock walk memory (.error fault)
  | refused {walk later : Walk} {memory : ZoneMemory} {occurrence : Moment} {fault : Fault}
      (hnext : walk.next = (.ok occurrence, later))
      (hproject : (memory.project zones zone clock occurrence).1 = .error fault) :
      Interleaves zones zone clock walk memory (.error fault)
  | goesOn {walk later : Walk} {memory : ZoneMemory} {occurrence : Moment} {text : String}
      {outcome : Except Fault (List String)} (hnext : walk.next = (.ok occurrence, later))
      (hproject : (memory.project zones zone clock occurrence).1 = .ok text)
      (hrest : Interleaves zones zone clock later (memory.project zones zone clock occurrence).2 outcome) :
      Interleaves zones zone clock walk memory (outcome.map (text :: ·))

/-- What a finished list is worth at the end of a walk: nothing, if the walk fails. -/
def Ending.closes {α : Type} (ending : Ending) (items : List α) : Except Fault (List α) :=
  match ending with
  | .failed fault => .error fault
  | _ => .ok items

/-- The rest of a walk projected in one pass, and then its ending. -/
def Walk.projected (zones : ZoneDatabase) (zone clock : Value) (walk : Walk) :
    Except Fault (List String) := do
  let texts ← walk.rest.mapM (projectAlone zones zone clock)
  walk.final.closes texts

section

variable {zones : ZoneDatabase} {zone clock : Value} {walk later : Walk} {occurrence : Moment}

theorem Walk.projected_of_finished {ending : Ending} (hnext : walk.next = (.error ending, later)) :
    walk.projected zones zone clock = ending.closes [] := by
  obtain ⟨hrest, hfinal⟩ := Walk.rest_of_next_error hnext
  rw [projected, hrest, hfinal]
  rfl

theorem Walk.projected_of_next (hnext : walk.next = (.ok occurrence, later)) :
    walk.projected zones zone clock =
      match projectAlone zones zone clock occurrence with
      | .error fault => .error fault
      | .ok text => (later.projected zones zone clock).map (text :: ·) := by
  obtain ⟨hrest, hfinal⟩ := Walk.rest_of_next hnext
  unfold projected
  rw [hrest, hfinal, List.mapM_cons]
  cases projectAlone zones zone clock occurrence with
  | error fault => rfl
  | ok text =>
    cases later.rest.mapM (projectAlone zones zone clock) with
    | error fault => rfl
    | ok texts => cases later.final <;> rfl

end

/-- Interleaved projection comes to what projecting the whole rest of a walk in one pass comes to. -/
theorem Interleaves.eq_projected {zones : ZoneDatabase} {zone clock : Value} {walk : Walk}
    {memory : ZoneMemory} {outcome : Except Fault (List String)}
    (hinterleaves : Interleaves zones zone clock walk memory outcome) (hfaithful : memory.Faithful zones) :
    walk.projected zones zone clock = outcome := by
  induction hinterleaves with
  | @finished walk later memory ending hnext hended =>
    rw [Walk.projected_of_finished hnext]
    cases ending with
    | failed fault => exact absurd trivial hended
    | _ => rfl
  | broken hnext => rw [Walk.projected_of_finished hnext, Ending.closes]
  | @refused walk later memory occurrence fault hnext hproject =>
    obtain ⟨halone, -⟩ := ZoneMemory.project_of_faithful hfaithful zone clock occurrence
    rw [halone] at hproject
    rw [Walk.projected_of_next hnext, hproject]
  | @goesOn walk later memory occurrence text outcome hnext hproject hrest ih =>
    obtain ⟨halone, hlater⟩ := ZoneMemory.project_of_faithful hfaithful zone clock occurrence
    rw [halone] at hproject
    rw [Walk.projected_of_next hnext, hproject, ih hlater]

/-- A walk can always be interleaved with projections: it has only so many occurrences left. -/
theorem exists_interleaves (zones : ZoneDatabase) (zone clock : Value) (walk : Walk) (memory : ZoneMemory) :
    ∃ outcome, Interleaves zones zone clock walk memory outcome := by
  generalize hleft : walk.rest = left
  induction left generalizing walk memory with
  | nil =>
    rcases hnext : walk.next with ⟨ending | occurrence, later⟩
    · cases ending with
      | failed fault => exact ⟨_, .broken hnext⟩
      | _ => exact ⟨_, .finished hnext nofun⟩
    · obtain ⟨hrest, -⟩ := Walk.rest_of_next hnext
      rw [hleft] at hrest
      cases hrest
  | cons first left ih =>
    rcases hnext : walk.next with ⟨ending | occurrence, later⟩
    · obtain ⟨hrest, -⟩ := Walk.rest_of_next_error hnext
      rw [hleft] at hrest
      cases hrest
    · obtain ⟨hrest, -⟩ := Walk.rest_of_next hnext
      rw [hleft, List.cons.injEq] at hrest
      cases hproject : (memory.project zones zone clock occurrence).1 with
      | error fault => exact ⟨_, .refused hnext hproject⟩
      | ok text =>
        obtain ⟨outcome, houtcome⟩ := ih later (memory.project zones zone clock occurrence).2 hrest.2.symm
        exact ⟨_, .goesOn hnext hproject houtcome⟩

theorem interleaves_iff {zones : ZoneDatabase} {zone clock : Value} {walk : Walk} {memory : ZoneMemory}
    (hfaithful : memory.Faithful zones) {outcome : Except Fault (List String)} :
    Interleaves zones zone clock walk memory outcome ↔ walk.projected zones zone clock = outcome := by
  constructor
  · exact fun hinterleaves => hinterleaves.eq_projected hfaithful
  · rintro rfl
    obtain ⟨outcome, houtcome⟩ := exists_interleaves zones zone clock walk memory
    rwa [houtcome.eq_projected hfaithful]

theorem Run.all_eq_closes (run : Run) : run.all = run.ending.closes run.occurrences := by
  unfold all Ending.closes
  cases run.ending <;> rfl

/-- A whole walk gives a list if the run gives one and each of its occurrences can be projected. -/
theorem Walk.projected_begin_eq_ok_iff {zones : ZoneDatabase} {zone clock : Value} {plan : Plan}
    {texts : List String} :
    (begin plan).projected zones zone clock = .ok texts ↔
      ∃ found, plan.run.all = .ok found ∧ found.mapM (projectAlone zones zone clock) = .ok texts := by
  unfold projected
  rw [rest_begin, final_begin, Run.all_eq_closes, bind_eq_ok_iff]
  unfold Ending.closes
  cases plan.run.ending with
  | failed fault =>
    refine iff_of_false ?_ ?_
    · rintro ⟨_, -, hfailed⟩
      cases hfailed
    · rintro ⟨_, hfailed, -⟩
      cases hfailed
  | _ => simp

namespace Rule

/-- An expansion as it is carried out, with remembered zones: the reference time is read, the zone is
    looked up, the start is asked for, and only then are occurrences taken and projected. -/
inductive Expands (rule : Rule) (zones : ZoneDatabase) (zone clock : Value) (limit : Option Threshold)
    (bound : Option Moment) (limits : Limits) (memory : ZoneMemory) : Except Fault (List String) → Prop where
  | clockRejected {cause : TimeError} (hclock : wallClockOf clock = .error cause) :
      Expands rule zones zone clock limit bound limits memory (.error (.time cause))
  | zoneRejected {time : TimeOfDay} {cause : TimeError} (hclock : wallClockOf clock = .ok time)
      (hzone : (memory.findValue zones zone).1 = .error cause) :
      Expands rule zones zone clock limit bound limits memory (.error (.time cause))
  | noStart {time : TimeOfDay} {target : TargetZone} (hclock : wallClockOf clock = .ok time)
      (hzone : (memory.findValue zones zone).1 = .ok target) (hstart : rule.start = none) :
      Expands rule zones zone clock limit bound limits memory (.error .noStart)
  | pipeline {time : TimeOfDay} {target : TargetZone} {plan : Plan} {outcome : Except Fault (List String)}
      (hclock : wallClockOf clock = .ok time) (hzone : (memory.findValue zones zone).1 = .ok target)
      (hmake : Plan.make rule limit bound limits = .ok plan)
      (hrun : Interleaves zones zone clock (.begin plan) (memory.findValue zones zone).2 outcome) :
      Expands rule zones zone clock limit bound limits memory outcome

section

variable {rule : Rule} {zones : ZoneDatabase} {zone clock : Value} {limit : Option Threshold}
  {bound : Option Moment} {limits : Limits}

theorem expand_value_of_clock_error {cause : TimeError} (hclock : wallClockOf clock = .error cause) :
    (rule.expand zones zone clock limit bound limits).value = .error (.time cause) := by
  simp only [expand, Projection.makeWith, hclock]

theorem make_of_zone {time : TimeOfDay} (hclock : wallClockOf clock = .ok time) :
    Projection.make zones zone clock = (zones.searchValue zone).map (⟨·, time⟩) := by
  unfold Projection.make
  rw [hclock]
  cases zones.searchValue zone <;> rfl

theorem expand_value_of_zone_error {time : TimeOfDay} {cause : TimeError}
    (hclock : wallClockOf clock = .ok time) (hzone : zones.searchValue zone = .error cause) :
    (rule.expand zones zone clock limit bound limits).value = .error (.time cause) := by
  have hmade := @Projection.makeWith_value_of_faithful zones _ ZoneMemory.empty_faithful zone clock
  rw [make_of_zone hclock, hzone] at hmade
  simp only [expand, hmade, Except.map]

section

variable {time : TimeOfDay} {target : TargetZone} (hclock : wallClockOf clock = .ok time)
  (hzone : zones.searchValue zone = .ok target)

include hclock hzone

theorem projectAlone_eq (moment : Moment) :
    projectAlone zones zone clock moment = (Projection.project ⟨target, time⟩ moment).mapError .calendar := by
  obtain ⟨hfresh, -⟩ := ZoneMemory.findValue_of_faithful (@ZoneMemory.empty_faithful zones) zone
  unfold projectAlone ZoneMemory.project
  rw [hclock]
  dsimp only
  rw [hfresh, hzone]

theorem expand_value_of_noStart (hstart : rule.start = none) :
    (rule.expand zones zone clock limit bound limits).value = .error .noStart := by
  have hmade := @Projection.makeWith_value_of_faithful zones _ ZoneMemory.empty_faithful zone clock
  have hmake : Plan.make rule limit bound limits = .error .noStart := by
    unfold Plan.make
    rw [hstart]
  rw [make_of_zone hclock, hzone] at hmade
  simp only [expand, hmade, Except.map, hmake]

/-- With a zone, a reference time and a start an expansion is the projected walk. -/
theorem expand_value_of_plan {plan : Plan} (hmake : Plan.make rule limit bound limits = .ok plan) :
    (rule.expand zones zone clock limit bound limits).value = (Walk.begin plan).projected zones zone clock := by
  have hmade := @Projection.makeWith_value_of_faithful zones _ ZoneMemory.empty_faithful zone clock
  have halone : projectAlone zones zone clock =
      fun moment => (Projection.project ⟨target, time⟩ moment).mapError .calendar :=
    funext (projectAlone_eq hclock hzone)
  rw [make_of_zone hclock, hzone] at hmade
  simp only [expand, hmade, Except.map, hmake]
  rw [Plan.project_value, Walk.projected, Walk.rest_begin, Walk.final_begin, halone, mapM_mapError,
    Run.all_eq_closes]
  cases plan.run.occurrences.mapM (Projection.project ⟨target, time⟩) with
  | error cause => rfl
  | ok texts => cases plan.run.ending <;> rfl

end

/-- The steps of an expansion come to its value, whatever zones are remembered. -/
theorem expands_iff {memory : ZoneMemory} (hfaithful : memory.Faithful zones)
    {outcome : Except Fault (List String)} :
    rule.Expands zones zone clock limit bound limits memory outcome ↔
      (rule.expand zones zone clock limit bound limits).value = outcome := by
  obtain ⟨hfound, hlater⟩ := ZoneMemory.findValue_of_faithful hfaithful zone
  constructor
  · intro hexpands
    cases hexpands with
    | clockRejected hclock => exact expand_value_of_clock_error hclock
    | zoneRejected hclock hzone =>
      rw [hfound] at hzone
      exact expand_value_of_zone_error hclock hzone
    | noStart hclock hzone hstart =>
      rw [hfound] at hzone
      exact expand_value_of_noStart hclock hzone hstart
    | pipeline hclock hzone hmake hrun =>
      rw [hfound] at hzone
      rw [expand_value_of_plan hclock hzone hmake, hrun.eq_projected hlater]
  · rintro rfl
    cases hclock : wallClockOf clock with
    | error cause =>
      rw [expand_value_of_clock_error hclock]
      exact .clockRejected hclock
    | ok time =>
      cases hzone : zones.searchValue zone with
      | error cause =>
        rw [expand_value_of_zone_error hclock hzone]
        exact .zoneRejected hclock (hfound.trans hzone)
      | ok target =>
        cases hstart : rule.start with
        | none =>
          rw [expand_value_of_noStart hclock hzone hstart]
          exact .noStart hclock (hfound.trans hzone) hstart
        | some start =>
          obtain ⟨plan, hmake⟩ := Plan.exists_make hstart limit bound limits
          rw [expand_value_of_plan hclock hzone hmake]
          exact .pipeline hclock (hfound.trans hzone) hmake ((interleaves_iff hlater).2 rfl)

/-- A list that an expansion gives holds the occurrences of the whole run, each projected on its own. -/
theorem expand_value_eq_ok_iff {texts : List String} :
    (rule.expand zones zone clock limit bound limits).value = .ok texts ↔
      (∃ time, wallClockOf clock = .ok time) ∧ (∃ target, zones.searchValue zone = .ok target) ∧
        ∃ plan found, Plan.make rule limit bound limits = .ok plan ∧ plan.run.all = .ok found ∧
          found.mapM (projectAlone zones zone clock) = .ok texts := by
  cases hclock : wallClockOf clock with
  | error cause =>
    rw [expand_value_of_clock_error hclock]
    refine iff_of_false nofun ?_
    rintro ⟨⟨_, hread⟩, -⟩
    cases hread
  | ok time =>
    cases hzone : zones.searchValue zone with
    | error cause =>
      rw [expand_value_of_zone_error hclock hzone]
      refine iff_of_false nofun ?_
      rintro ⟨-, ⟨_, hfound⟩, -⟩
      cases hfound
    | ok target =>
      cases hstart : rule.start with
      | none =>
        rw [expand_value_of_noStart hclock hzone hstart]
        refine iff_of_false nofun ?_
        rintro ⟨-, -, plan, -, hmake, -⟩
        rw [(Plan.of_make hmake).2.1] at hstart
        cases hstart
      | some start =>
        obtain ⟨plan, hmake⟩ := Plan.exists_make hstart limit bound limits
        rw [expand_value_of_plan hclock hzone hmake, Walk.projected_begin_eq_ok_iff]
        constructor
        · rintro ⟨found, hall, htexts⟩
          exact ⟨⟨time, rfl⟩, ⟨target, rfl⟩, plan, found, hmake, hall, htexts⟩
        · rintro ⟨-, -, other, found, hother, hall, htexts⟩
          rw [hmake, Except.ok.injEq] at hother
          subst hother
          exact ⟨found, hall, htexts⟩

end

end Rule

end Recurrence
