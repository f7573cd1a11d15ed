import Recurrence.CommandLine.Invocation
import Recurrence.Proofs.Outcome
import Recurrence.Proofs.Text.Search

namespace Recurrence.CommandLine

/-- The word that asks for an option by a name and gives it a value. -/
def assigning (name value : String) : String := name ++ "=" ++ value

theorem toList_assigning (name value : String) :
    (assigning name value).toList = name.toList ++ '=' :: value.toList := by
  simp [assigning]

/-- A long name: two dashes and more, without an equals sign. -/
structure IsLongName (name : String) : Prop where
  dashes : ∃ letter letters, name.toList = '-' :: '-' :: letter :: letters
  plain : '=' ∉ name.toList

namespace Word

variable {κ : Type} {switches : List (Switch κ)} {name : String}

/-- No option has a name with an equals sign. -/
def HasPlainNames (switches : List (Switch κ)) : Prop :=
  ∀ entry ∈ Switch.table switches, '=' ∉ entry.1.toList

instance : Decidable (HasPlainNames switches) :=
  inferInstanceAs (Decidable (∀ entry ∈ Switch.table switches, '=' ∉ entry.1.toList))

theorem assignment_assigning (hname : IsLongName name) (value : String) :
    assignment (assigning name value).toList = .assigned value ∧
      (Text.cut '=' (assigning name value).toList).1 = name.toList := by
  rw [toList_assigning, assignment, Text.cut_append_cons hname.plain,
    if_pos (by simp)]
  exact ⟨congrArg Attached.assigned String.ofList_toList, rfl⟩

theorem named?_assigning (hplain : HasPlainNames switches) (value : String) :
    Switch.named? switches (assigning name value) = none := by
  rw [Switch.named?, Option.map_eq_none_iff, List.find?_eq_none]
  intro entry hentry hsame
  apply hplain entry hentry
  rw [eq_of_beq hsame, toList_assigning]
  exact List.mem_append_right _ List.mem_cons_self

theorem roleOf_eq_roleOfPart (hname : IsLongName name) (hplain : HasPlainNames switches) (value : String) :
    roleOf switches (assigning name value) = roleOfPart switches (assigning name value) := by
  obtain ⟨letter, letters, hletters⟩ := hname.dashes
  have htext : (assigning name value).toList =
      '-' :: '-' :: (letter :: letters ++ '=' :: value.toList) := by
    rw [toList_assigning, hletters]
    rfl
  unfold roleOf
  rw [htext, named?_assigning hplain]
  rfl

/-- A long name with a text after an equals sign asks for the option and gives it the text. -/
theorem roleOf_assigning (hname : IsLongName name) (hplain : HasPlainNames switches)
    {switch : Switch κ} (hnamed : Switch.named? switches name = some switch) (value : String) :
    roleOf switches (assigning name value) = .ok (.option switch (.assigned value)) := by
  obtain ⟨hassignment, hcut⟩ := assignment_assigning hname value
  have hattached : attachment name.toList value = .assigned value := by
    obtain ⟨letter, letters, hletters⟩ := hname.dashes
    rw [hletters]
    rfl
  rw [roleOf_eq_roleOfPart hname hplain, roleOfPart]
  simp only [hassignment, hcut, String.ofList_toList, hnamed, hattached]

/-- A long name that no option's name begins with asks for nothing there is. -/
theorem exists_roleOf_assigning (hname : IsLongName name) (hplain : HasPlainNames switches)
    (hforeign : ∀ entry ∈ Switch.table switches, name.toList.isPrefixOf entry.1.toList = false)
    (value : String) : ∃ role, roleOf switches (assigning name value) = .ok role := by
  obtain ⟨hassignment, hcut⟩ := assignment_assigning hname value
  obtain ⟨letter, letters, hletters⟩ := hname.dashes
  have hnamed : Switch.named? switches name = none := by
    rw [Switch.named?, Option.map_eq_none_iff, List.find?_eq_none]
    intro entry hentry hsame
    have hpart := hforeign entry hentry
    rw [eq_of_beq hsame, List.isPrefixOf_iff_prefix.2 (List.prefix_refl _)] at hpart
    cases hpart
  have hcandidates : candidates switches (assigning name value).toList = [] := by
    have htext : (assigning name value).toList =
        '-' :: '-' :: (letter :: letters ++ '=' :: value.toList) := by
      rw [toList_assigning, hletters]
      rfl
    rw [htext, candidates, ← htext, hcut, List.map_eq_nil_iff, List.filter_eq_nil_iff]
    intro entry hentry
    rw [hforeign entry hentry]
    exact Bool.false_ne_true
  rw [roleOf_eq_roleOfPart hname hplain, roleOfPart]
  simp only [hassignment, hcut, String.ofList_toList, hnamed, hcandidates]
  exact ⟨_, rfl⟩

theorem exists_ofTexts {texts : List String}
    (htexts : ∀ text ∈ texts, ∃ role, roleOf switches text = .ok role) (rest : List String) :
    ∃ words, ofTexts switches (texts ++ "--" :: rest) = .ok words := by
  induction texts with
  | nil => exact ⟨_, rfl⟩
  | cons text texts ih =>
    obtain ⟨⟨role, hrole⟩, hmore⟩ := List.forall_mem_cons.1 htexts
    obtain ⟨words, hwords⟩ := ih hmore
    rw [List.cons_append, ofTexts, hrole, hwords]
    by_cases hseparator : text = "--"
    · exact ⟨_, if_pos hseparator⟩
    · exact ⟨_, if_neg hseparator⟩

end Word

namespace Grammar

variable {κ σ : Type} {grammar : Grammar κ σ}

/-- An option with its value changes what was found, and nothing waits. -/
theorem step_assigned {found : σ} (hopen : grammar.isClosed found = false) {switch : Switch κ}
    (htakes : switch.takesValue = true) (text value : String) :
    grammar.step { found } ⟨text, .option switch (.assigned value)⟩ =
      (grammar.apply found switch.meaning value).map fun later => { found := later } := by
  simp only [step, hopen, Bool.false_eq_true, if_false, ask, Asked.ofAttached, Asked.ofAssignment, htakes,
    if_true, Except.mapError, bind, Except.bind, applyAll, List.foldlM_cons, List.foldlM_nil]
  cases grammar.apply found switch.meaning value <;> rfl

end Grammar

end Recurrence.CommandLine

namespace Recurrence

open CommandLine

/-- The long name of an option of a command. -/
def CommandOption.longName : CommandOption → String
  | .help => "--help"
  | .zone => "--zone"
  | .time => "--time"
  | .limit => "--limit"

theorem CommandOption.isLongName_longName (option : CommandOption) : IsLongName option.longName where
  dashes := by cases option <;> exact ⟨_, _, rfl⟩
  plain := by cases option <;> decide

/-- The words of a command with its options and its rule text. -/
def fullWords (uses : List (CommandOption × String)) (rule : String) : List String :=
  uses.map (fun use => assigning use.1.longName use.2) ++ ["--", rule]

theorem assigning_ne_separator (option : CommandOption) (value : String) :
    assigning option.longName value ≠ "--" := by
  intro hsame
  have hequals : '=' ∈ (assigning option.longName value).toList := by
    rw [toList_assigning]
    exact List.mem_append_right _ List.mem_cons_self
  rw [hsame] at hequals
  revert hequals
  decide

namespace ProgramDraft

/-- Once the command has been named, all words are kept for it. -/
theorem foldlM_step_closed (draft : ProgramDraft) (hclosed : draft.words ≠ [])
    (words : List (Word ProgramOption)) :
    words.foldlM grammar.step { found := draft } =
      .ok { found := { draft with words := draft.words ++ words.map (·.text) } } := by
  induction words generalizing draft with
  | nil => simp [pure, Except.pure]
  | cons word words ih =>
    have hstep : grammar.step { found := draft } word =
        .ok { found := { draft with words := draft.words ++ [word.text] } } := by
      have hisClosed : grammar.isClosed draft = true := by
        simpa [grammar] using hclosed
      have hplace : grammar.place draft word = ({ draft with words := draft.words ++ [word.text] }, []) := by
        obtain ⟨first, more, hfirst⟩ := List.exists_cons_of_ne_nil hclosed
        simp only [grammar, place, hfirst]
      simp only [Grammar.step, hisClosed, if_true, Grammar.placed, hplace, List.append_nil]
    rw [List.foldlM_cons, hstep]
    simp only [bind, Except.bind]
    rw [ih _ (by simp)]
    simp

/-- The program keeps the words of a command as they are. -/
theorem read_command (kind : CommandKind) {uses : List (CommandOption × String)}
    (huses : ∀ use ∈ uses, use.1 ≠ .help) (rule : String) :
    grammar.read {} (kind.name :: fullWords uses rule) =
      .ok ({ words := kind.name :: fullWords uses rule }, []) := by
  have hplain : Word.HasPlainNames grammar.switches := by decide
  have hoperand : Word.roleOf grammar.switches kind.name = .ok .operand := by
    cases kind <;> rfl
  have hname : kind.name ≠ "--" := by
    cases kind <;> decide
  have hforeign : ∀ option : CommandOption, option ≠ .help → ∀ entry ∈ Switch.table grammar.switches,
      option.longName.toList.isPrefixOf entry.1.toList = false := by
    intro option hoption
    cases option with
    | help => exact absurd rfl hoption
    | zone => decide
    | time => decide
    | limit => decide
  have hroles : ∀ text ∈ uses.map fun use => assigning use.1.longName use.2,
      ∃ role, Word.roleOf grammar.switches text = .ok role := by
    intro text htext
    obtain ⟨use, huse, rfl⟩ := List.mem_map.1 htext
    exact Word.exists_roleOf_assigning use.1.isLongName_longName hplain (hforeign use.1 (huses use huse)) use.2
  obtain ⟨words, hwords⟩ := Word.exists_ofTexts hroles [rule]
  have hnamed : Word.ofTexts grammar.switches (kind.name :: fullWords uses rule) =
      .ok (⟨kind.name, .operand⟩ :: words) := by
    rw [Word.ofTexts, if_neg hname, hoperand, fullWords, hwords]
    rfl
  have hfirst : grammar.step { found := {} } ⟨kind.name, .operand⟩ =
      .ok { found := { words := [kind.name] } } := rfl
  have htexts := Word.ofTexts_map_text hwords
  rw [Grammar.read, hnamed]
  simp only [Except.mapError, bind, Except.bind, List.foldlM_cons, hfirst,
    foldlM_step_closed { words := [kind.name] } (List.cons_ne_nil _ _), htexts]
  rfl

end ProgramDraft

namespace CommandDraft

/-- The options of a command one after the other. -/
def withOptions (draft : CommandDraft) (uses : List (CommandOption × String)) : Except Halt CommandDraft :=
  uses.foldlM (fun draft use => draft.withOption use.1 use.2) draft

/-- An option that takes a value, as the command to expand has it. -/
theorem exists_switch {option : CommandOption} (hoption : option ≠ .help) :
    ∃ switch, Switch.named? (switches .expand) option.longName = some switch ∧
      switch.meaning = option ∧ switch.takesValue = true := by
  cases option with
  | help => exact absurd rfl hoption
  | zone => exact ⟨_, rfl, rfl, rfl⟩
  | time => exact ⟨_, rfl, rfl, rfl⟩
  | limit => exact ⟨_, rfl, rfl, rfl⟩

/-- An option leaves the rule text alone. -/
theorem text_of_withOption {draft later : CommandDraft} {option : CommandOption} {value : String}
    (hlater : draft.withOption option value = .ok later) : later.text = draft.text := by
  cases option with
  | help => cases hlater
  | zone => cases hlater; rfl
  | time => cases hlater; rfl
  | limit =>
    obtain ⟨number, -, hnumber⟩ := bind_eq_ok_iff.1 hlater
    cases hnumber
    rfl

/-- The words of options are read as the options one after the other. -/
theorem exists_words {uses : List (CommandOption × String)} (huses : ∀ use ∈ uses, use.1 ≠ .help)
    {draft later : CommandDraft} (hlater : draft.withOptions uses = .ok later) (rest : List String) :
    ∃ words, Word.ofTexts (switches .expand)
        (uses.map (fun use => assigning use.1.longName use.2) ++ "--" :: rest) =
          .ok (words ++ ⟨"--", .separator⟩ :: rest.map (⟨·, .operand⟩)) ∧
      words.foldlM (grammar .expand).step { found := draft } = .ok { found := later } := by
  induction uses generalizing draft with
  | nil =>
    cases hlater
    exact ⟨[], rfl, rfl⟩
  | cons use uses ih =>
    obtain ⟨huse, hmore⟩ := List.forall_mem_cons.1 huses
    obtain ⟨next, hnext, hrest⟩ := bind_eq_ok_iff.1 hlater
    obtain ⟨switch, hnamed, hmeaning, htakes⟩ := exists_switch huse
    obtain ⟨words, hwords, hread⟩ := ih hmore hrest
    have hrole := Word.roleOf_assigning use.1.isLongName_longName (by decide) hnamed use.2
    refine ⟨⟨assigning use.1.longName use.2, .option switch (.assigned use.2)⟩ :: words, ?_, ?_⟩
    · rw [List.map_cons, List.cons_append, Word.ofTexts,
        if_neg (assigning_ne_separator use.1 use.2), hrole, hwords]
      rfl
    · have happly : (grammar .expand).apply draft switch.meaning use.2 = .ok next := by
        rw [hmeaning]
        exact hnext
      rw [List.foldlM_cons, Grammar.step_assigned rfl htakes, happly]
      exact hread

theorem text_of_withOptions {uses : List (CommandOption × String)} {draft later : CommandDraft}
    (hlater : draft.withOptions uses = .ok later) : later.text = draft.text := by
  refine foldlM_preserves (P := fun found => found.text = draft.text) ?_ rfl hlater
  intro found use next hfound hnext
  rw [text_of_withOption hnext, hfound]

/-- The words of a command are read as its options and its rule text. -/
theorem read_fullWords {uses : List (CommandOption × String)} (huses : ∀ use ∈ uses, use.1 ≠ .help)
    {draft : CommandDraft} (hdraft : withOptions {} uses = .ok draft) (rule : String) :
    (grammar .expand).read {} (fullWords uses rule) =
      .ok ({ draft with text := some rule, endsWithText := true }, []) := by
  obtain ⟨words, hwords, hread⟩ := exists_words huses hdraft [rule]
  have htext : draft.text = none := text_of_withOptions hdraft
  have hseparator : (grammar .expand).step { found := draft } ⟨"--", .separator⟩ =
      .ok { found := { draft with endsWithText := false } } := by
    simp [Grammar.step, Grammar.placed, grammar, place, htext]
  have hrule : (grammar .expand).step { found := { draft with endsWithText := false } } ⟨rule, .operand⟩ =
      .ok { found := { draft with text := some rule, endsWithText := true } } := by
    simp [Grammar.step, Grammar.placed, grammar, place, htext]
  have hswitches : (grammar .expand).switches = switches .expand := rfl
  unfold Grammar.read
  rw [hswitches, fullWords, hwords]
  simp only [Except.mapError, bind, Except.bind, List.foldlM_append, hread, List.map_cons, List.map_nil,
    List.foldlM_cons, List.foldlM_nil, hseparator, hrule]
  rfl

end CommandDraft

namespace Invocation

/-- A command to expand is what its words ask for. -/
theorem ofWords_expand {uses : List (CommandOption × String)} (huses : ∀ use ∈ uses, use.1 ≠ .help)
    {draft : CommandDraft} (hdraft : CommandDraft.withOptions {} uses = .ok draft) {clock : String}
    (hclock : draft.time = some clock) (rule : String) :
    ofWords (CommandKind.expand.name :: fullWords uses rule) =
      .ok ⟨none, {}, .expand (CommandDraft.unfolded rule) draft.zone clock draft.limit⟩ := by
  have hread : CommandDraft.read .expand (fullWords uses rule) =
      .ok (.expand (CommandDraft.unfolded rule) draft.zone clock draft.limit, []) := by
    unfold CommandDraft.read
    rw [CommandDraft.read_fullWords huses hdraft]
    simp only [Except.mapError, bind, Except.bind, CommandDraft.finish, hclock]
    rfl
  unfold ofWords
  rw [ProgramDraft.read_command .expand huses]
  simp only [Except.mapError, bind, Except.bind]
  split
  · next hwords => cases hwords
  · next hwords =>
    have hname := (List.cons.inj hwords).1
    exact absurd hname (by decide)
  · next name rest _ hwords =>
    obtain ⟨rfl, rfl⟩ := List.cons.inj hwords
    have hname : CommandKind.ofName? CommandKind.expand.name = some .expand := rfl
    rw [hname]
    dsimp only
    rw [hread]
    rfl

end Invocation

/-- The options of a command to expand: the zone and the limit may be left out. -/
def expandOptions (zone : Option String) (clock : String) (limit : Option String) :
    List (CommandOption × String) :=
  (zone.map (CommandOption.zone, ·)).toList ++
    (.time, clock) :: (limit.map (CommandOption.limit, ·)).toList

/-- The words that ask for a rule to be expanded. -/
def expandWords (rule : String) (zone : Option String) (clock : String) (limit : Option String) :
    List String :=
  CommandKind.expand.name :: fullWords (expandOptions zone clock limit) rule

theorem exists_withOptions_expandOptions (zone : Option String) (clock : String) {limit : Option String}
    {number : Option Int} (hlimit : limit.mapM CommandDraft.readLimit = .ok number) :
    ∃ draft : CommandDraft, CommandDraft.withOptions {} (expandOptions zone clock limit) = .ok draft ∧
      draft.zone = zone ∧ draft.time = some clock ∧ draft.limit = number := by
  obtain ⟨given, hgiven, hzone, hclock, hnone⟩ : ∃ given : CommandDraft,
      CommandDraft.withOptions {} (expandOptions zone clock none) = .ok given ∧ given.zone = zone ∧
        given.time = some clock ∧ given.limit = none := by
    cases zone with
    | none => exact ⟨_, rfl, rfl, rfl, rfl⟩
    | some zone => exact ⟨_, rfl, rfl, rfl, rfl⟩
  cases limit with
  | none =>
    cases hlimit
    exact ⟨given, hgiven, hzone, hclock, hnone⟩
  | some text =>
    obtain ⟨asked, hasked, rfl⟩ := map_eq_ok_iff.1 hlimit
    have hoptions : expandOptions zone clock (some text) =
        expandOptions zone clock none ++ [(.limit, text)] := by
      simp [expandOptions]
    refine ⟨{ given with limit := some asked, endsWithText := false }, ?_, hzone, hclock, rfl⟩
    rw [hoptions, CommandDraft.withOptions, List.foldlM_append, ← CommandDraft.withOptions, hgiven]
    simp only [bind, Except.bind, List.foldlM_cons, List.foldlM_nil, CommandDraft.withOption, hasked]
    rfl

/-- Whatever the rule text, the zone and the reference time are, there are words that ask for them. -/
theorem Invocation.ofWords_expandWords (rule : String) (zone : Option String) (clock : String)
    {limit : Option String} {number : Option Int}
    (hlimit : limit.mapM CommandDraft.readLimit = .ok number) :
    ofWords (expandWords rule zone clock limit) =
      .ok ⟨none, {}, .expand (CommandDraft.unfolded rule) zone clock number⟩ := by
  have huses : ∀ use ∈ expandOptions zone clock limit, use.1 ≠ .help := by
    intro use huse
    simp only [expandOptions, List.mem_append, List.mem_cons, Option.mem_toList, Option.map_eq_some_iff]
      at huse
    rcases huse with ⟨_, -, rfl⟩ | rfl | ⟨_, -, rfl⟩ <;> exact nofun
  obtain ⟨draft, hdraft, hzone, hclock, hnumber⟩ := exists_withOptions_expandOptions zone clock hlimit
  rw [expandWords, ofWords_expand huses hdraft hclock, hzone, hnumber]

end Recurrence
