import Recurrence.Proofs.Expansion.Pipeline
import Recurrence.Zone.Catalogue

namespace Recurrence

/-- The zone that a name resolves to: the zone with exactly this name, and only where there is none, the
    short table of a zone that the name means loosely. -/
inductive ResolvesTo (zones : ZoneDatabase) (name : String) : TargetZone → Prop where
  | exact {zone : Zone} (hexact : zones.named? name = some zone) : ResolvesTo zones name (.exact zone)
  | lenient {zone : MinuteZone} (hexact : zones.named? name = none)
      (hlenient : zones.looselyNamed? name = some zone) : ResolvesTo zones name (.lenient zone)

theorem ZoneDatabase.search_eq_ok_iff {zones : ZoneDatabase} {name : String} {zone : TargetZone} :
    zones.search name = .ok zone ↔ Text.allBlank name = false ∧ ResolvesTo zones name zone := by
  unfold search
  constructor
  · intro hsearch
    split at hsearch
    · cases hsearch
    · next hblank =>
      refine ⟨by simpa using hblank, ?_⟩
      split at hsearch
      · next found hexact =>
        cases hsearch
        exact .exact hexact
      · next hexact =>
        split at hsearch
        · next found hlenient =>
          cases hsearch
          exact .lenient hexact hlenient
        · cases hsearch
  · rintro ⟨hblank, hresolves⟩
    rw [if_neg (by simp [hblank])]
    cases hresolves with
    | exact hexact => simp only [hexact]
    | lenient hexact hlenient => simp only [hexact, hlenient]

namespace ZoneMemory

variable {zones : ZoneDatabase} {memory : ZoneMemory}

/-- A look-up touches what is remembered for its own name only. -/
theorem remembered?_find_of_ne (zones : ZoneDatabase) (memory : ZoneMemory) {name other : String}
    (hname : other ≠ name) :
    (memory.find zones name).2.remembered? other = memory.remembered? other := by
  unfold find
  split
  · rfl
  · split
    · unfold remembered?
      rw [List.find?_cons_of_neg (by simpa using hname.symm)]
    · rfl

/-- After a look-up its name stands for what a new search finds, if that is anything. -/
theorem remembered?_find_self (hfaithful : memory.Faithful zones) (name : String) :
    (memory.find zones name).2.remembered? name = (zones.search name).toOption := by
  unfold find
  split
  · next zone hrecall => rw [hrecall, hfaithful name zone hrecall, Except.toOption]
  · next hrecall =>
    cases hsearch : zones.search name with
    | ok zone => simp [remembered?, Except.toOption]
    | error cause => rw [hrecall, Except.toOption]

/-- A look-up that fails leaves the memory exactly as it was. -/
theorem find_snd_of_error {name : String} {cause : TimeError}
    (hfail : (memory.find zones name).1 = .error cause) : (memory.find zones name).2 = memory := by
  unfold find at hfail ⊢
  split
  · rfl
  · split
    · simp_all
    · rfl

theorem findValue_snd_of_error {name : Value} {cause : TimeError}
    (hfail : (memory.findValue zones name).1 = .error cause) : (memory.findValue zones name).2 = memory := by
  cases name with
  | text name => exact find_snd_of_error hfail
  | _ => rfl

/-- A look-up under one spelling does not change the outcome under another one. -/
theorem find_fst_find_of_ne (zones : ZoneDatabase) (memory : ZoneMemory) {name other : String}
    (hname : other ≠ name) :
    ((memory.find zones name).2.find zones other).1 = (memory.find zones other).1 := by
  have hsame := remembered?_find_of_ne zones memory hname
  unfold find at hsame ⊢
  rw [hsame]
  cases hrecall : memory.remembered? other with
  | some zone => rfl
  | none => cases zones.search other <;> rfl

end ZoneMemory

/-- A use of a memory of zones: a zone is looked up, or a moment is expressed in one. -/
inductive ZoneUse where
  | lookUp (name : Value)
  | express (moment : Moment) (name : Value)

namespace ZoneUse

/-- The value that the zone is named by. -/
def name : ZoneUse → Value
  | lookUp name => name
  | express _ name => name

/-- What a use gives: a zone or a moment, or why there is none. -/
inductive Answer where
  | zone (found : Except TimeError TargetZone)
  | moment (found : Except Fault Moment)

/-- What the use gives with a memory, and what is remembered afterwards. -/
def answer (use : ZoneUse) (zones : ZoneDatabase) (memory : ZoneMemory) : Answer × ZoneMemory :=
  match use with
  | lookUp name => (.zone (memory.findValue zones name).1, (memory.findValue zones name).2)
  | express moment name => (.moment (memory.toZone zones moment name).1, (memory.toZone zones moment name).2)

/-- What the use gives with nothing remembered. -/
def answerAlone (use : ZoneUse) (zones : ZoneDatabase) : Answer := (use.answer zones {}).1

/-- What uses give one after the other, and what is remembered after the last. -/
def answers (zones : ZoneDatabase) : List ZoneUse → ZoneMemory → List Answer × ZoneMemory
  | [], memory => ([], memory)
  | use :: rest, memory =>
    ((use.answer zones memory).1 :: (answers zones rest (use.answer zones memory).2).1,
      (answers zones rest (use.answer zones memory).2).2)

/-- Every use leaves the memory that looking its zone up leaves. -/
theorem answer_snd (use : ZoneUse) (zones : ZoneDatabase) (memory : ZoneMemory) :
    (use.answer zones memory).2 = (memory.findValue zones use.name).2 := by
  cases use with
  | lookUp name => rfl
  | express moment name =>
    simp only [answer, ZoneMemory.toZone, ZoneUse.name]
    cases (memory.findValue zones name).1 <;> rfl

theorem answer_fst_of_faithful {zones : ZoneDatabase} {memory : ZoneMemory}
    (hfaithful : memory.Faithful zones) (use : ZoneUse) :
    (use.answer zones memory).1 = use.answerAlone zones := by
  obtain ⟨hfound, -⟩ := ZoneMemory.findValue_of_faithful hfaithful use.name
  obtain ⟨hfresh, -⟩ := ZoneMemory.findValue_of_faithful (@ZoneMemory.empty_faithful zones) use.name
  unfold answerAlone
  cases use with
  | lookUp name =>
    simp only [answer, ZoneUse.name] at hfound hfresh ⊢
    rw [hfound, hfresh]
  | express moment name =>
    simp only [answer, ZoneMemory.toZone, ZoneUse.name] at hfound hfresh ⊢
    rw [hfound, hfresh]
    cases zones.searchValue name <;> rfl

/-- A use adds to what is remembered its own name, if this resolves to a zone. -/
theorem remembered?_answer_iff {zones : ZoneDatabase} {memory : ZoneMemory}
    (hfaithful : memory.Faithful zones) (use : ZoneUse) {name : String} {zone : TargetZone} :
    (use.answer zones memory).2.remembered? name = some zone ↔
      memory.remembered? name = some zone ∨
        use.name = .text name ∧ zones.search name = .ok zone := by
  rw [answer_snd]
  cases hvalue : use.name with
  | text other =>
    rw [ZoneMemory.findValue]
    by_cases hname : name = other
    · subst hname
      rw [ZoneMemory.remembered?_find_self hfaithful, toOption_eq_some_iff]
      simp only [true_and]
      exact ⟨Or.inr, fun hrecall => hrecall.elim (hfaithful name zone) id⟩
    · rw [ZoneMemory.remembered?_find_of_ne zones memory hname]
      simp [Ne.symm hname]
  | _ => simp [ZoneMemory.findValue]

theorem answers_spec {zones : ZoneDatabase} (uses : List ZoneUse) {memory : ZoneMemory}
    (hfaithful : memory.Faithful zones) :
    (answers zones uses memory).1 = uses.map (·.answerAlone zones) ∧
      (answers zones uses memory).2.Faithful zones ∧
      ∀ name zone, (answers zones uses memory).2.remembered? name = some zone ↔
        memory.remembered? name = some zone ∨
          (∃ use ∈ uses, use.name = .text name) ∧ zones.search name = .ok zone := by
  induction uses generalizing memory with
  | nil => exact ⟨rfl, hfaithful, by simp [answers]⟩
  | cons use rest ih =>
    have hlater : (use.answer zones memory).2.Faithful zones := by
      rw [answer_snd]
      exact (ZoneMemory.findValue_of_faithful hfaithful use.name).2
    obtain ⟨hanswers, hlast, hrecall⟩ := ih hlater
    refine ⟨?_, hlast, fun name zone => ?_⟩
    · rw [answers, hanswers, answer_fst_of_faithful hfaithful, List.map_cons]
    · rw [answers, hrecall, remembered?_answer_iff hfaithful]
      simp only [List.mem_cons, exists_eq_or_imp]
      tauto

/-- Whatever zones there are, remembering them is transparent. Whatever is used one after the other, each use gives
    what it gives with nothing remembered, refusals included. A name is remembered exactly if it was asked for, is not
    blank and resolves to a zone, and then as this zone: the one with exactly this name before any that is meant
    loosely. Wherever uses have led, a look-up that fails leaves the memory as it was, and a look-up under one spelling
    leaves what is remembered and found under every other spelling. -/
theorem answers_transparent (zones : ZoneDatabase) (uses : List ZoneUse) :
    (answers zones uses {}).1 = uses.map (·.answerAlone zones) ∧
      (∀ name zone, (answers zones uses {}).2.remembered? name = some zone ↔
        (∃ use ∈ uses, use.name = .text name) ∧ Text.allBlank name = false ∧ ResolvesTo zones name zone) ∧
      (∀ (use : ZoneUse) cause, ((answers zones uses {}).2.findValue zones use.name).1 = .error cause →
        (use.answer zones (answers zones uses {}).2).2 = (answers zones uses {}).2) ∧
      ∀ name other, other ≠ name →
        ((answers zones uses {}).2.find zones name).2.remembered? other =
            (answers zones uses {}).2.remembered? other ∧
          (((answers zones uses {}).2.find zones name).2.find zones other).1 =
            ((answers zones uses {}).2.find zones other).1 := by
  obtain ⟨hanswers, -, hrecall⟩ := answers_spec uses ZoneMemory.empty_faithful
  refine ⟨hanswers, fun name zone => ?_, fun use cause hfail => ?_, fun name other hname => ?_⟩
  · rw [hrecall, ZoneDatabase.search_eq_ok_iff]
    simp [ZoneMemory.remembered?]
  · rw [answer_snd]
    exact ZoneMemory.findValue_snd_of_error hfail
  · exact ⟨ZoneMemory.remembered?_find_of_ne zones _ hname, ZoneMemory.find_fst_find_of_ne zones _ hname⟩

/-- A zone loosely written, the folder that it lies in, and the zone with its exact name. -/
def tokyoUses : List ZoneUse :=
  [lookUp (.text "asia/tokyo"), lookUp (.text "Asia"), lookUp (.text "Asia/Tokyo")]

/-- The two spellings of a zone stand beside each other, and the folder leaves no trace. -/
theorem tokyoUses_transparent :
    (answers .listed tokyoUses {}).1 =
        [.zone (.ok (.lenient (.ofZone Zone.Table.tokyo))), .zone (.error (.zoneUnknown "Asia")),
          .zone (.ok (.exact Zone.Table.tokyo))] ∧
      (answers .listed tokyoUses {}).2.remembered? "asia/tokyo" = some (.lenient (.ofZone Zone.Table.tokyo)) ∧
      (answers .listed tokyoUses {}).2.remembered? "Asia/Tokyo" = some (.exact Zone.Table.tokyo) ∧
      (answers .listed tokyoUses {}).2.remembered? "Asia" = none := by
  have hloose : ZoneDatabase.listed.search "asia/tokyo" = .ok (.lenient (.ofZone Zone.Table.tokyo)) :=
    toOption_eq_some_iff.1 (by decide +kernel)
  have hexact : ZoneDatabase.listed.search "Asia/Tokyo" = .ok (.exact Zone.Table.tokyo) :=
    toOption_eq_some_iff.1 (by decide +kernel)
  have hfolder : ZoneDatabase.listed.search "Asia" = .error (.zoneUnknown "Asia") := by
    have hblank : Text.allBlank "Asia" = false := by decide +kernel
    have hnone : ZoneDatabase.listed.named? "Asia" = none := by decide +kernel
    have hloosely : ZoneDatabase.listed.looselyNamed? "Asia" = none := by decide +kernel
    simp only [ZoneDatabase.search, hblank, hnone, hloosely, Bool.false_eq_true, if_false]
  obtain ⟨hanswers, hremembered, -, -⟩ := answers_transparent .listed tokyoUses
  refine ⟨?_, ?_, ?_, ?_⟩
  · rw [hanswers]
    simp only [tokyoUses, List.map_cons, List.map_nil, answerAlone, answer, ZoneMemory.findValue,
      ZoneMemory.find_fst_of_faithful ZoneMemory.empty_faithful, hloose, hexact, hfolder]
  · rw [hremembered, ← ZoneDatabase.search_eq_ok_iff]
    exact ⟨⟨_, List.mem_cons_self, rfl⟩, hloose⟩
  · rw [hremembered, ← ZoneDatabase.search_eq_ok_iff]
    exact ⟨⟨_, List.mem_cons_of_mem _ (List.mem_cons_of_mem _ List.mem_cons_self), rfl⟩, hexact⟩
  · rw [Option.eq_none_iff_forall_ne_some]
    intro zone hzone
    rw [hremembered, ← ZoneDatabase.search_eq_ok_iff, hfolder] at hzone
    cases hzone.2

end ZoneUse

end Recurrence
