import FortranStyle.Proofs.Settings.Entry

/-!
# The order of entries

The section on rules is read entry by entry, and stops at the first fault.  Its outcome is
nevertheless that of the entries as a set: it is refused exactly when one of them is malformed
or two of them contradict each other, and what it gives else is what its entries set.  A mapping
from rules stands for the list of its entries.
-/

namespace FortranStyle.Settings

open Value (lookup?)

/-! ## Reading entry by entry -/

/-- What settings have become by entries that are all well formed. -/
structure Gathers (start : Settings) (entries : List Value) (final : Settings) : Prop where
  options : final.options = start.options
  sets : ∀ entry ∈ entries, ∃ rule setting, Sets entry rule setting
  rule_iff : ∀ rule setting, final.rule rule = some setting ↔
    start.rule rule = some setting ∨ ∃ entry ∈ entries, Sets entry rule setting

/-- Entries cannot be added to settings: one is malformed, or sets for a rule something else
than the settings or another entry. -/
def Faulty (start : Settings) (entries : List Value) : Prop :=
  (∃ entry ∈ entries, Malformed entry) ∨
    ∃ entry ∈ entries, ∃ rule setting other, Sets entry rule setting ∧ other ≠ setting ∧
      (start.rule rule = some other ∨ ∃ entry' ∈ entries, Sets entry' rule other)

theorem rule_set (settings : Settings) (rule : Rule) (setting : RuleSetting) :
    (settings.set rule setting).rule rule = some setting :=
  if_pos rfl

theorem rule_set_of_ne (settings : Settings) {rule other : Rule} (setting : RuleSetting)
    (different : other ≠ rule) : (settings.set rule setting).rule other = settings.rule other :=
  if_neg different

/-- The setting of an entry that agrees with the settings so far is added to them. -/
theorem rule_set_eq_some_iff {settings : Settings} {rule : Rule} {setting : RuleSetting}
    (agrees : ∀ other, settings.rule rule = some other → other = setting) (rule' : Rule)
    (setting' : RuleSetting) :
    (settings.set rule setting).rule rule' = some setting' ↔
      settings.rule rule' = some setting' ∨ rule' = rule ∧ setting' = setting := by
  by_cases same : rule' = rule
  · subst same
    rw [rule_set, Option.some.injEq]
    constructor
    · exact fun equal => .inr ⟨rfl, equal.symm⟩
    · rintro (old | ⟨-, equal⟩)
      · exact (agrees setting' old).symm
      · exact equal.symm
  · rw [rule_set_of_ne settings setting same]
    exact ⟨.inl, fun either => either.resolve_right fun same' => same same'.1⟩

/-- An entry that agrees with the settings so far is gathered before the others. -/
theorem Gathers.cons {start final : Settings} {entry : Value} {rest : List Value} {rule : Rule}
    {setting : RuleSetting} (gathers : Gathers (start.set rule setting) rest final)
    (sets : Sets entry rule setting)
    (agrees : ∀ other, start.rule rule = some other → other = setting) :
    Gathers start (entry :: rest) final := by
  refine ⟨gathers.options, List.forall_mem_cons.mpr ⟨⟨rule, setting, sets⟩, gathers.sets⟩, ?_⟩
  intro rule' setting'
  have own : rule' = rule ∧ setting' = setting ↔ Sets entry rule' setting' :=
    ⟨by rintro ⟨rfl, rfl⟩; exact sets, fun sets' => sets'.unique sets⟩
  rw [gathers.rule_iff, rule_set_eq_some_iff agrees, own, or_assoc]
  simp only [List.mem_cons, exists_eq_or_imp]

/-- A fault behind an entry is a fault of the whole. -/
theorem Faulty.cons {start : Settings} {entry : Value} {rest : List Value} {rule : Rule}
    {setting : RuleSetting} (faulty : Faulty (start.set rule setting) rest)
    (sets : Sets entry rule setting)
    (agrees : ∀ other, start.rule rule = some other → other = setting) :
    Faulty start (entry :: rest) := by
  rcases faulty with ⟨found, found_mem, malformed⟩ |
    ⟨found, found_mem, rule', setting', other, sets', different,
      known | ⟨second, second_mem, sets''⟩⟩
  · exact .inl ⟨found, List.mem_cons_of_mem _ found_mem, malformed⟩
  · refine .inr ⟨found, List.mem_cons_of_mem _ found_mem, rule', setting', other, sets',
      different, ?_⟩
    rcases (rule_set_eq_some_iff agrees rule' other).mp known with old | ⟨rfl, rfl⟩
    · exact .inl old
    · exact .inr ⟨entry, List.mem_cons_self, sets⟩
  · exact .inr ⟨found, List.mem_cons_of_mem _ found_mem, rule', setting', other, sets', different,
      .inr ⟨second, List.mem_cons_of_mem _ second_mem, sets''⟩⟩

/-- The same entries in any order and number give the same settings. -/
theorem Gathers.unique {entries others : List Value} {final final' : Settings}
    (gathers : Gathers .default entries final) (gathers' : Gathers .default others final')
    (same : ∀ entry, entry ∈ others ↔ entry ∈ entries) : final' = final := by
  have rules : final'.rule = final.rule := by
    funext rule
    refine Option.ext fun setting => ?_
    simp only [gathers.rule_iff, gathers'.rule_iff, same]
  have options : final'.options = final.options := gathers'.options.trans gathers.options.symm
  cases final
  cases final'
  exact congrArg₂ Settings.mk rules options

/-- The entry of a list that an entry of a mapping from rules stands for.  A truth value says
whether the rule runs. -/
def listed : Value × Value → Value
  | (rule, .bool enabled) =>
      .mapping (Value.put "rule" rule [(.text "enabled", .bool enabled)])
  | (rule, .mapping fields) => .mapping (Value.put "rule" rule fields)
  | (_, other) => other

/-- The entries of a section on rules: those of a list, or those that a mapping from rules
stands for. -/
inductive Lists : Value → List Value → Prop
  | list (entries : List Value) : Lists (.list entries) entries
  | mapping (rules : List (Value × Value)) : Lists (.mapping rules) (rules.map listed)

end FortranStyle.Settings
