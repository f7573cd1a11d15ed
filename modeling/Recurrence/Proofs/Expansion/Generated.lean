import Recurrence.Proofs.Expansion.Pipeline
import Recurrence.Zone.Catalogue

namespace Recurrence

/-- The records among what is reported that warn. -/
def Reported.warnings {α : Type} (reported : Reported α) : List Log.Record :=
  (reported.notices.map Notice.record).filter (Log.warning ≤ ·.level)

/-- A notice that tells details only. -/
def Notice.IsQuiet (notice : Notice) : Prop := notice.record.level < Log.warning

theorem Notice.isQuiet_of_debug {notice : Notice} (hlevel : notice.record.level = Log.debug) :
    notice.IsQuiet := by
  unfold IsQuiet
  rw [hlevel]
  decide

theorem warnings_of_quiet {notices : List Notice} (hquiet : ∀ notice ∈ notices, notice.IsQuiet) :
    (notices.map Notice.record).filter (Log.warning ≤ ·.level) = [] := by
  rw [List.filter_eq_nil_iff]
  intro record hrecord
  obtain ⟨notice, hmem, rfl⟩ := List.mem_map.1 hrecord
  have hlevel := hquiet notice hmem
  unfold Notice.IsQuiet at hlevel
  rw [decide_eq_true_iff]
  omega

theorem Segment.quiet_remark? {segment : Segment} {notice : Notice}
    (hremark : segment.remark? = some notice) : notice.IsQuiet := by
  refine Notice.isQuiet_of_debug ?_
  unfold remark? at hremark
  split at hremark
  · split at hremark
    · cases hremark
    · cases hremark
      rfl
  · split at hremark
    · cases hremark
      rfl
    · cases hremark
  · split at hremark
    · cases hremark
      rfl
    · cases hremark
  all_goals cases hremark

theorem Segment.quiet_zonedRemark? {segment : Segment} {notice : Notice}
    (hremark : segment.zonedRemark? = some notice) : notice.IsQuiet := by
  unfold zonedRemark? at hremark
  split at hremark
  · split at hremark
    · cases hremark
    · cases hremark
      exact Notice.isQuiet_of_debug rfl
  · exact quiet_remark? hremark

/-- Nothing that the reader of zoned text reports is a warning. -/
theorem Rule.quiet_zonedRemarks (text : String) : ∀ notice ∈ zonedRemarks text, notice.IsQuiet := by
  intro notice hmem
  unfold zonedRemarks at hmem
  split at hmem
  · cases hmem
  · split at hmem
    · rw [List.mem_singleton.1 hmem]
      exact Notice.isQuiet_of_debug rfl
    · split at hmem
      · rw [List.mem_singleton.1 hmem]
        exact Notice.isQuiet_of_debug rfl
      · split at hmem
        · rw [List.mem_singleton.1 hmem]
          exact Notice.isQuiet_of_debug rfl
        · obtain ⟨segment, -, hremark⟩ := List.mem_filterMap.1 hmem
          exact Segment.quiet_zonedRemark? hremark

/-- Nothing that a look-up reports is a warning. -/
theorem ZoneMemory.quiet_remarks (memory : ZoneMemory) (zones : ZoneDatabase) (zone : Value) :
    ∀ notice ∈ memory.remarks zones zone, notice.IsQuiet := by
  intro notice hmem
  have hcause : ∃ name, notice = .zoneNotExact name ∨ ∃ target, notice = .zoneResolved name target := by
    unfold remarks at hmem
    split at hmem
    · next name =>
      refine ⟨name, ?_⟩
      split at hmem
      · cases hmem
      · have hexact : ∀ {found : Bool}, notice ∈ (if found then [] else [Notice.zoneNotExact name]) →
            notice = .zoneNotExact name := by
          intro found hmem
          cases found
          · exact List.mem_singleton.1 hmem
          · cases hmem
        dsimp only at hmem
        split at hmem
        · next target _ =>
          rcases List.mem_append.1 hmem with hmem | hmem
          · exact Or.inl (hexact hmem)
          · exact Or.inr ⟨target, List.mem_singleton.1 hmem⟩
        · exact Or.inl (hexact hmem)
    · cases hmem
  obtain ⟨name, rfl | ⟨target, rfl⟩⟩ := hcause
  · exact Notice.isQuiet_of_debug rfl
  · exact Notice.isQuiet_of_debug rfl

theorem Projection.quiet_makeWith (zones : ZoneDatabase) (memory : ZoneMemory) (zone clock : Value) :
    ∀ notice ∈ (makeWith zones memory zone clock).1.notices, notice.IsQuiet := by
  intro notice hmem
  unfold makeWith at hmem
  split at hmem
  · cases hmem
  · exact memory.quiet_remarks zones zone notice hmem

/-- What a projected run that fails reports is no warning: it has not come to its end. -/
theorem Plan.quiet_project {plan : Plan} {projection : Projection} {fault : Fault}
    (hfault : (plan.project projection).value = .error fault) :
    ∀ notice ∈ (plan.project projection).notices, notice.IsQuiet := by
  have hstarted : ∀ notice ∈ [Notice.expansionStarted plan], notice.IsQuiet := by
    intro notice hmem
    rw [List.mem_singleton.1 hmem]
    exact Notice.isQuiet_of_debug rfl
  unfold project at hfault ⊢
  dsimp only at hfault ⊢
  split at hfault
  · exact hstarted
  · have hending := Run.all_eq_error_iff.1 (map_eq_error_iff.1 hfault)
    dsimp only
    unfold Run.remarks
    rw [hending]
    exact hstarted

namespace Request

/-- The run of a request's rule, before its faults are looked at. -/
def outcome (request : Request) (limits : Limits) : Reported (Except Fault (List String)) :=
  match Plan.make request.rule none none limits with
  | .error fault => ⟨.error fault, []⟩
  | .ok plan => plan.project request.projection

theorem quiet_outcome {request : Request} {limits : Limits} {fault : Fault}
    (hfault : (request.outcome limits).value = .error fault) :
    ∀ notice ∈ (request.outcome limits).notices, notice.IsQuiet := by
  unfold outcome at hfault ⊢
  split at hfault
  · exact List.forall_mem_nil _
  · exact Plan.quiet_project hfault

/-- A fault with a wording is reported and gives no occurrences; everything else is passed on. -/
theorem answer_eq (request : Request) (limits : Limits) :
    request.answer limits =
      match (request.outcome limits).value with
      | .ok _ => request.outcome limits
      | .error fault =>
        match fault.message? with
        | some message =>
          ⟨.ok [], (request.outcome limits).notices ++ [.ruleNotExpanded request.zone message]⟩
        | none => request.outcome limits :=
  rfl

end Request

/-- How generating treats the outcome of an expansion into a zone. -/
inductive Settles (zone : Value) :
    Except Fault (List String) → Reported (Except Fault (List String)) → Prop where
  | given {texts : List String} {notices : List Notice} : Settles zone (.ok texts) ⟨.ok texts, notices⟩
  | warned {fault : Fault} {message : String} {generated : Reported (Except Fault (List String))}
      (hmessage : fault.message? = some message) (hnone : generated.value = .ok [])
      (hwarned : generated.warnings = [(Notice.ruleNotExpanded zone message).record]) :
      Settles zone (.error fault) generated
  | raised {fault : Fault} {notices : List Notice} (hmessage : fault.message? = none) :
      Settles zone (.error fault) ⟨.error fault, notices⟩

theorem warnings_of_quiet_append {zone : Value} {message : String} {value : Except Fault (List String)}
    {notices : List Notice} (hquiet : ∀ notice ∈ notices, notice.IsQuiet) :
    Reported.warnings ⟨value, notices ++ [.ruleNotExpanded zone message]⟩ =
      [(Notice.ruleNotExpanded zone message).record] := by
  rw [Reported.warnings, List.map_append, List.filter_append, warnings_of_quiet hquiet]
  rfl

section

variable {zones : ZoneDatabase} {text : String} {zone clock : Value} {limits : Limits}

theorem generate_of_none (hread : Rule.ofZonedText text = .ok none) :
    (generate zones (.text text) zone clock limits).value = .ok [] ∧
      (generate zones (.text text) zone clock limits).warnings = [] := by
  have hgenerate : generate zones (.text text) zone clock limits = ⟨.ok [], Rule.zonedRemarks text⟩ := by
    simp only [generate, Request.read, Rule.ofZonedValue, hread, Rule.zonedValueRemarks]
  rw [hgenerate]
  exact ⟨rfl, warnings_of_quiet (Rule.quiet_zonedRemarks text)⟩

/-- The rule that was read is expanded, and its outcome is settled. -/
theorem generate_settles {rule : Rule} (hread : Rule.ofZonedText text = .ok (some rule)) :
    Settles zone (rule.expand zones zone clock none none limits).value
      (generate zones (.text text) zone clock limits) := by
  obtain ⟨made, hmade⟩ : ∃ made, (Projection.makeWith zones {} zone clock).1 = made := ⟨_, rfl⟩
  have hquiet : ∀ notice ∈ Rule.zonedRemarks text ++ made.notices, notice.IsQuiet := by
    rw [← hmade]
    exact List.forall_mem_append.2
      ⟨Rule.quiet_zonedRemarks text, Projection.quiet_makeWith zones {} zone clock⟩
  cases hvalue : made.value with
  | error cause =>
    have hexpand : (rule.expand zones zone clock none none limits).value = .error (.time cause) := by
      simp only [Rule.expand, hmade, hvalue]
    have hgenerate : generate zones (.text text) zone clock limits =
        ⟨.ok [], Rule.zonedRemarks text ++ made.notices ++ [.ruleNotExpanded zone cause.message]⟩ := by
      simp only [generate, Request.read, Rule.ofZonedValue, hread, Rule.zonedValueRemarks, hmade,
        hvalue]
    rw [hexpand, hgenerate]
    exact .warned rfl rfl (warnings_of_quiet_append hquiet)
  | ok projection =>
    obtain ⟨request, hrequest⟩ : ∃ request : Request, ⟨rule, zone, projection⟩ = request := ⟨_, rfl⟩
    have hexpand :
        (rule.expand zones zone clock none none limits).value = (request.outcome limits).value := by
      rw [← hrequest]
      simp only [Rule.expand, Request.outcome, hmade, hvalue]
      cases Plan.make rule none none limits <;> rfl
    have hgenerate : generate zones (.text text) zone clock limits =
        ⟨(request.answer limits).value,
          Rule.zonedRemarks text ++ made.notices ++ (request.answer limits).notices⟩ := by
      simp only [generate, Request.read, Rule.ofZonedValue, hread, Rule.zonedValueRemarks, hmade,
        hvalue, hrequest]
    have hzone : request.zone = zone := by rw [← hrequest]
    rw [hexpand, hgenerate, Request.answer_eq, hzone]
    cases houtcome : (request.outcome limits).value with
    | ok texts =>
      dsimp only
      rw [houtcome]
      exact .given
    | error fault =>
      dsimp only
      cases hmessage : fault.message? with
      | none =>
        dsimp only
        rw [houtcome]
        exact .raised hmessage
      | some message =>
        have hboth := List.forall_mem_append.2 ⟨hquiet, Request.quiet_outcome houtcome⟩
        dsimp only
        rw [← List.append_assoc]
        exact .warned hmessage rfl (warnings_of_quiet_append hboth)

end

/-- An expansion is the plain pipeline, whatever zones there are and whichever of them are remembered: it comes to
    what its steps come to one after the other, and a list that it gives holds the occurrences of the whole run,
    each projected on its own. Generating gives nothing and warns of nothing where the text has no rule, and
    otherwise settles the expansion of the rule that was read. -/
theorem Rule.expand_is_pipeline (rule : Rule) (text : String) (zones : ZoneDatabase) (zone clock : Value)
    (limit : Option Threshold) (bound : Option Moment) (limits : Limits) {memory : ZoneMemory}
    (hfaithful : memory.Faithful zones) :
    (∀ outcome, rule.Expands zones zone clock limit bound limits memory outcome ↔
        (rule.expand zones zone clock limit bound limits).value = outcome) ∧
      (∀ texts, (rule.expand zones zone clock limit bound limits).value = .ok texts ↔
        (∃ time, wallClockOf clock = .ok time) ∧ (∃ target, zones.searchValue zone = .ok target) ∧
          ∃ plan found, Plan.make rule limit bound limits = .ok plan ∧ plan.run.all = .ok found ∧
            found.mapM (projectAlone zones zone clock) = .ok texts) ∧
      (ofZonedText text = .ok none →
        (generate zones (.text text) zone clock limits).value = .ok [] ∧
          (generate zones (.text text) zone clock limits).warnings = []) ∧
      ∀ parsed, ofZonedText text = .ok (some parsed) →
        Settles zone (parsed.expand zones zone clock none none limits).value
          (generate zones (.text text) zone clock limits) :=
  ⟨fun _ => expands_iff hfaithful, fun _ => expand_value_eq_ok_iff, generate_of_none,
    fun _ => generate_settles⟩

/-- Two days. -/
def twoDaysText : String := "DTSTART;TZID=UTC:20240101T000000\nRRULE:FREQ=DAILY;COUNT=2"

/-- Two days at nine o'clock in Tokyo, step by step, and what is generated for a zone that does not
    exist. -/
theorem Rule.twoDays_pipeline :
    ∃ parsed, ofZonedText twoDaysText = .ok (some parsed) ∧ ZoneMemory.Faithful {} .listed ∧
      parsed.Expands .listed (.text "Asia/Tokyo") (.text "09:00") none none {} {}
        (.ok ["2024-01-01T09:00:00.000+09:00", "2024-01-02T09:00:00.000+09:00"]) ∧
      Settles (.text "Nowhere")
        (parsed.expand .listed (.text "Nowhere") (.text "09:00") none none {}).value
        (generate .listed (.text twoDaysText) (.text "Nowhere") (.text "09:00") {}) := by
  have hvalue : ∃ parsed, (ofZonedText twoDaysText).toOption.join = some parsed ∧
      ((parsed.expand .listed (.text "Asia/Tokyo") (.text "09:00") none none {}).value.toOption ==
        some ["2024-01-01T09:00:00.000+09:00", "2024-01-02T09:00:00.000+09:00"]) = true :=
    (Option.any_eq_true _ _).1 (by decide +kernel)
  obtain ⟨parsed, hparsed, htexts⟩ := hvalue
  have hread := toOption_eq_some_iff.1 (Option.join_eq_some_iff.1 hparsed)
  obtain ⟨hsteps, -, -, -⟩ := parsed.expand_is_pipeline twoDaysText .listed (.text "Asia/Tokyo")
    (.text "09:00") none none {} ZoneMemory.empty_faithful
  obtain ⟨-, -, -, hsettles⟩ := parsed.expand_is_pipeline twoDaysText .listed (.text "Nowhere")
    (.text "09:00") none none {} ZoneMemory.empty_faithful
  exact ⟨parsed, hread, ZoneMemory.empty_faithful,
    (hsteps _).2 (toOption_eq_some_iff.1 (eq_of_beq htexts)), hsettles parsed hread⟩

end Recurrence
