import FortranStyle.Proofs.Sorting.Stable
import FortranStyle.Rule.Check

/-!
# One rule's setting

The setting of a rule decides about the diagnostics of that rule alone: whether
they are shown, and how much they weigh.  All other diagnostics stay the same, in
the same order.
-/

namespace FortranStyle

theorem Rule.name_injective {rule rule' : Rule} (same : rule.name = rule'.name) :
    rule = rule' := by
  have named := Rule.ofName?_name rule
  rw [same, Rule.ofName?_name] at named
  exact (Option.some.inj named).symm

theorem Rule.filter_all (rule : Rule) : Rule.all.filter (· == rule) = [rule] := by
  cases rule <;> decide

/-- Marking a diagnostic has nothing to do with its severity. -/
theorem Diagnostic.asPartial_withSeverity (diagnostic : Diagnostic) (severity : Severity) :
    (diagnostic.withSeverity severity).asPartial = diagnostic.asPartial.withSeverity severity := by
  rw [Diagnostic.asPartial, Diagnostic.asPartial, Diagnostic.withSeverity]
  split <;> rfl

namespace Source

variable (source : Source) {settings settings' : Settings}

/-! ## The diagnostics of one rule -/

/-- A diagnostic of a rule as it is shown, but for its severity. -/
def shown (rule : Rule) (diagnostic : Diagnostic) : Diagnostic :=
  if rule.needsStructure && source.outline.isPartial then diagnostic.asPartial else diagnostic

theorem shown_withSeverity (rule : Rule) (diagnostic : Diagnostic) (severity : Severity) :
    source.shown rule (diagnostic.withSeverity severity) =
      (source.shown rule diagnostic).withSeverity severity := by
  rw [shown, shown]
  split
  · exact diagnostic.asPartial_withSeverity severity
  · rfl

/-- The diagnostics of a rule that runs have its severity; all else is up to the
source and the options. -/
theorem judge_of_isEnabled {rule : Rule} (enabled : settings.isEnabled rule = true) :
    source.judge settings rule =
      ((rule.check source settings.options).map (source.shown rule)).map
        (·.withSeverity (settings.severity rule)) := by
  rw [judge, if_pos enabled, List.map_map]
  exact List.map_congr_left fun diagnostic _ => source.shown_withSeverity rule diagnostic _

theorem judge_of_not_isEnabled {rule : Rule} (disabled : settings.isEnabled rule = false) :
    source.judge settings rule = [] := by
  rw [judge, disabled]
  rfl

theorem judge_eq_nil {rule : Rule} (nothing : rule.findings source settings.options = []) :
    source.judge settings rule = [] := by
  rw [judge, Rule.check, nothing]
  split <;> rfl

/-- The judgement of a rule depends on the options and on its own setting. -/
theorem judge_congr {rule : Rule} (options : settings.options = settings'.options)
    (same : settings.rule rule = settings'.rule rule) :
    source.judge settings rule = source.judge settings' rule := by
  rw [judge, judge, Settings.isEnabled, Settings.isEnabled, Settings.severity, Settings.severity,
    same, options]

/-- What every diagnostic of a rule says. -/
theorem of_mem_judge {rule : Rule} {diagnostic : Diagnostic}
    (member : diagnostic ∈ source.judge settings rule) :
    diagnostic.rule = rule.name ∧ diagnostic.file = source.path ∧
      diagnostic.severity = settings.severity rule := by
  cases enabled : settings.isEnabled rule with
  | false =>
    rw [source.judge_of_not_isEnabled enabled] at member
    exact absurd member List.not_mem_nil
  | true =>
    rw [source.judge_of_isEnabled enabled, List.map_map, Rule.check, List.map_map] at member
    obtain ⟨finding, -, rfl⟩ := List.mem_map.mp member
    simp only [Function.comp_apply, shown]
    split
    · exact ⟨rfl, rfl, rfl⟩
    · exact ⟨rfl, rfl, rfl⟩

/-- A diagnostic of a rule stands where the rule found it. -/
theorem exists_finding_of_mem_judge {rule : Rule} {diagnostic : Diagnostic}
    (member : diagnostic ∈ source.judge settings rule) :
    ∃ finding ∈ rule.findings source settings.options,
      diagnostic.line = finding.line ∧ diagnostic.column = finding.column := by
  cases enabled : settings.isEnabled rule with
  | false =>
    rw [source.judge_of_not_isEnabled enabled] at member
    contradiction
  | true =>
    rw [source.judge_of_isEnabled enabled, List.map_map, Rule.check, List.map_map] at member
    obtain ⟨finding, found, rfl⟩ := List.mem_map.mp member
    refine ⟨finding, found, ?_⟩
    simp only [Function.comp_apply, shown]
    split
    · exact ⟨rfl, rfl⟩
    · exact ⟨rfl, rfl⟩

/-! ## All diagnostics -/

theorem mem_check {diagnostic : Diagnostic} :
    diagnostic ∈ source.check settings ↔ ∃ rule, diagnostic ∈ source.judge settings rule := by
  rw [check, Diagnostic.mem_sort, List.mem_flatMap]
  exact ⟨fun ⟨rule, _, judged⟩ => ⟨rule, judged⟩,
    fun ⟨rule, judged⟩ => ⟨rule, rule.mem_all, judged⟩⟩

/-- A diagnostic with the name of a rule is one of that rule. -/
theorem mem_judge_of_rule_eq {rule : Rule} {diagnostic : Diagnostic}
    (member : diagnostic ∈ source.check settings) (named : diagnostic.rule = rule.name) :
    diagnostic ∈ source.judge settings rule := by
  obtain ⟨other, judged⟩ := source.mem_check.mp member
  obtain rfl := Rule.name_injective ((source.of_mem_judge judged).1.symm.trans named)
  exact judged

theorem file_of_mem_check {diagnostic : Diagnostic} (member : diagnostic ∈ source.check settings) :
    diagnostic.file = source.path := by
  obtain ⟨rule, judged⟩ := source.mem_check.mp member
  exact (source.of_mem_judge judged).2.1

/-- The diagnostics of some rules are what these rules find, in order. -/
theorem filter_check {p : Diagnostic → Bool} {q : Rule → Bool}
    (same : ∀ rule, ∀ diagnostic ∈ source.judge settings rule, p diagnostic = q rule) :
    (source.check settings).filter p =
      Diagnostic.sort ((Rule.all.filter q).flatMap (source.judge settings)) := by
  rw [check, Diagnostic.filter_sort, List.filter_flatMap]
  congr 1
  induction Rule.all with
  | nil => rfl
  | cons rule rest ih =>
    rw [List.flatMap_cons, ih]
    cases chosen : q rule with
    | true =>
      rw [List.filter_cons_of_pos chosen, List.flatMap_cons, List.filter_eq_self.mpr]
      exact fun diagnostic member => (same rule diagnostic member).trans chosen
    | false =>
      rw [List.filter_cons_of_neg (by simp [chosen]), List.filter_eq_nil_iff.mpr]
      · rfl
      · intro diagnostic member kept
        rw [same rule diagnostic member, chosen] at kept
        contradiction

theorem filter_check_ne (rule : Rule) :
    (source.check settings).filter (·.rule != rule.name) =
      Diagnostic.sort ((Rule.all.filter (· != rule)).flatMap (source.judge settings)) := by
  apply source.filter_check
  intro other diagnostic judged
  rw [(source.of_mem_judge judged).1, Bool.eq_iff_iff, bne_iff_ne, bne_iff_ne]
  exact not_congr ⟨Rule.name_injective, congrArg Rule.name⟩

theorem filter_check_eq (rule : Rule) :
    (source.check settings).filter (·.rule == rule.name) =
      Diagnostic.sort (source.judge settings rule) := by
  rw [source.filter_check (q := (· == rule)), Rule.filter_all, List.flatMap_singleton]
  intro other diagnostic judged
  rw [(source.of_mem_judge judged).1, Bool.eq_iff_iff, beq_iff_eq, beq_iff_eq]
  exact ⟨Rule.name_injective, congrArg Rule.name⟩

end Source

/-! ## Settings that differ in one rule -/

/-- Two settings that say the same about everything but one rule. -/
structure Settings.AgreeBut (rule : Rule) (settings settings' : Settings) : Prop where
  options : settings.options = settings'.options
  others : ∀ other, other ≠ rule → settings.rule other = settings'.rule other

theorem Settings.agreeBut_disableRule (settings : Settings) (rule : Rule) :
    AgreeBut rule settings (settings.disableRule rule) :=
  ⟨rfl, fun _ different => (if_neg different).symm⟩

theorem Settings.isEnabled_disableRule (settings : Settings) (rule : Rule) :
    (settings.disableRule rule).isEnabled rule = false := by
  simp [disableRule, set, isEnabled]

/-- The severity of a rule is the one that is set, or else its default. -/
theorem Settings.severity_eq (settings : Settings) (rule : Rule) :
    settings.severity rule =
      match settings.rule rule with
      | some ⟨_, some severity⟩ => severity
      | _ => rule.defaultSeverity := by
  rw [severity]
  match settings.rule rule with
  | none => rfl
  | some ⟨_, none⟩ => rfl
  | some ⟨_, some severity⟩ => rfl

namespace Source

variable (source : Source) {settings settings' : Settings} {rule : Rule}

theorem filter_check_ne_congr (agree : settings.AgreeBut rule settings') :
    (source.check settings).filter (·.rule != rule.name) =
      (source.check settings').filter (·.rule != rule.name) := by
  rw [filter_check_ne, filter_check_ne]
  congr 1
  apply List.flatMap_congr
  intro other member
  exact source.judge_congr agree.options
    (agree.others other (bne_iff_ne.mp (List.mem_filter.mp member).2))

/-- A rule that is off has no diagnostics. -/
theorem rule_ne_of_mem_check (disabled : settings.isEnabled rule = false) :
    ∀ diagnostic ∈ source.check settings, diagnostic.rule ≠ rule.name := by
  intro diagnostic member same
  obtain ⟨other, judged⟩ := source.mem_check.mp member
  obtain rfl := Rule.name_injective ((source.of_mem_judge judged).1.symm.trans same)
  rw [source.judge_of_not_isEnabled disabled] at judged
  exact List.not_mem_nil judged

/-- Turning a rule off takes its diagnostics out. -/
theorem check_of_not_isEnabled (agree : settings.AgreeBut rule settings')
    (disabled : settings'.isEnabled rule = false) :
    source.check settings' = (source.check settings).filter (·.rule != rule.name) := by
  rw [source.filter_check_ne_congr agree, List.filter_eq_self.mpr]
  intro diagnostic member
  exact bne_iff_ne.mpr (source.rule_ne_of_mem_check disabled diagnostic member)

/-- Another severity is all that another setting of a rule gives its diagnostics. -/
theorem filter_check_eq_congr (agree : settings.AgreeBut rule settings')
    (enabled : settings.isEnabled rule = true) (enabled' : settings'.isEnabled rule = true) :
    (source.check settings').filter (·.rule == rule.name) =
      ((source.check settings).filter (·.rule == rule.name)).map
        (·.withSeverity (settings'.severity rule)) := by
  have weighed : ((source.judge settings rule).map (·.withSeverity (settings'.severity rule))) =
      source.judge settings' rule := by
    rw [source.judge_of_isEnabled enabled, source.judge_of_isEnabled enabled', agree.options,
      List.map_map]
    rfl
  rw [filter_check_eq, filter_check_eq, ← weighed]
  symm
  exact List.map_mergeSort fun _ _ _ _ => rfl

theorem severity_of_mem_check {diagnostic : Diagnostic}
    (member : diagnostic ∈ source.check settings) (same : diagnostic.rule = rule.name) :
    diagnostic.severity = settings.severity rule := by
  obtain ⟨other, judged⟩ := source.mem_check.mp member
  obtain ⟨name_eq, -, severity_eq⟩ := source.of_mem_judge judged
  obtain rfl := Rule.name_injective (name_eq.symm.trans same)
  exact severity_eq

/-- Two settings that agree but for one rule give the same diagnostics of all other
rules, in the same order.  A rule that is off has no diagnostics; otherwise they are
the same but for their severity, which is the one that is set or else the default.
So turning a rule off takes its diagnostics out and leaves the others as they are.
The diagnostics are in the order of file, line, column and rule. -/
theorem check_of_agreeBut (agree : settings.AgreeBut rule settings') :
    (source.check settings).filter (·.rule != rule.name) =
        (source.check settings').filter (·.rule != rule.name) ∧
      (settings.isEnabled rule = false →
        ∀ diagnostic ∈ source.check settings, diagnostic.rule ≠ rule.name) ∧
      (settings.isEnabled rule = true → settings'.isEnabled rule = true →
        (source.check settings').filter (·.rule == rule.name) =
          ((source.check settings).filter (·.rule == rule.name)).map
            (·.withSeverity (settings'.severity rule))) ∧
      (∀ diagnostic ∈ source.check settings, diagnostic.rule = rule.name →
        diagnostic.severity = match settings.rule rule with
          | some ⟨_, some severity⟩ => severity
          | _ => rule.defaultSeverity) ∧
      (settings'.isEnabled rule = false →
        source.check settings' = (source.check settings).filter (·.rule != rule.name)) ∧
      source.check (settings.disableRule rule) =
        (source.check settings).filter (·.rule != rule.name) ∧
      (source.check settings).Pairwise (fun first second => first.key ≤ second.key) := by
  refine ⟨source.filter_check_ne_congr agree, source.rule_ne_of_mem_check,
    source.filter_check_eq_congr agree, fun diagnostic member same => ?_,
    source.check_of_not_isEnabled agree,
    source.check_of_not_isEnabled (settings.agreeBut_disableRule rule)
      (settings.isEnabled_disableRule rule), ?_⟩
  · rw [source.severity_of_mem_check member same, Settings.severity_eq]
  · exact (Diagnostic.pairwise_sort _).imp Diagnostic.le_iff_key_le.mp

/-- Tabs that are warnings leave the findings of the other rules as they are. -/
theorem check_of_agreeBut_tabs :
    Settings.AgreeBut .tabs .default (Settings.default.set .tabs ⟨true, some .warning⟩) ∧
      ((Source.ofLines "a.f90" ["\tstop "]).check .default).filter (·.rule != "NO-TABS") =
        ((Source.ofLines "a.f90" ["\tstop "]).check
          (Settings.default.set .tabs ⟨true, some .warning⟩)).filter (·.rule != "NO-TABS") :=
  have agree : Settings.AgreeBut .tabs .default
      (Settings.default.set .tabs ⟨true, some .warning⟩) :=
    ⟨rfl, fun _ different => (if_neg different).symm⟩
  ⟨agree, (check_of_agreeBut (.ofLines "a.f90" ["\tstop "]) agree).1⟩

end Source

end FortranStyle
