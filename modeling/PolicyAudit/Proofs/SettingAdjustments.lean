/-
Module: PolicyAudit.Proofs.SettingAdjustments
Purpose: What becomes of settings that are adjusted call by call, and of the catalog under them.
Imports: PolicyAudit.Proofs.ConfiguredRuns
Trusted boundary: none
Main exports: RunSettings.Adjustment, RunSettings.adjusted, RunSettings.LastOverride,
  RunSettings.Adjustment.Independent, RunSettings.isEnabled_adjusted_eq_false_iff,
  RunSettings.severityOverride?_adjusted_eq_some_iff, RunSettings.adjusted_swap,
  PolicySet.ids_configured_ofCatalog, RunSettings.adjustments_compose
-/
import PolicyAudit.Proofs.ConfiguredRuns

namespace PolicyAudit

namespace RunSettings

/-! ### Calls -/

/-- A call that adjusts the setting of one policy. -/
inductive Adjustment where
  | disable (id : String)
  | overrideSeverity (id : String) (severity : Severity)
deriving DecidableEq

namespace Adjustment

/-- The policy that a call names. -/
def id : Adjustment → String
  | disable id => id
  | overrideSeverity id _ => id

def apply (settings : RunSettings) : Adjustment → RunSettings
  | disable id => settings.disable id
  | overrideSeverity id severity => settings.overrideSeverity id severity

/-- What a call does to the setting of its policy. -/
def change : Adjustment → PolicySetting → PolicySetting
  | disable _, old => { old with enabled := some false }
  | overrideSeverity _ severity, old => { old with severity := some severity }

/-- Two calls on different policies or of different kinds. -/
inductive Independent : Adjustment → Adjustment → Prop where
  | apart {a b : Adjustment} (different : a.id ≠ b.id) : Independent a b
  | disableFirst (id other : String) (severity : Severity) :
      Independent (disable id) (overrideSeverity other severity)
  | overrideFirst (id other : String) (severity : Severity) :
      Independent (overrideSeverity id severity) (disable other)

end Adjustment

/-- The settings after calls, one after the other. -/
def adjusted (settings : RunSettings) (calls : List Adjustment) : RunSettings :=
  calls.foldl Adjustment.apply settings

/-- The last call that overrides the severity of a policy gives it this one. -/
def LastOverride (calls : List Adjustment) (id : String) (severity : Severity) : Prop :=
  ∃ before after, calls = before ++ .overrideSeverity id severity :: after ∧
    ∀ other, .overrideSeverity id other ∉ after

/-! ### One call -/

variable {settings : RunSettings} {a b : Adjustment} {id : String} {severity : Severity}

theorem apply_eq_adjust (settings : RunSettings) (a : Adjustment) :
    a.apply settings = settings.adjust a.id a.change := by
  cases a <;> rfl

theorem find?_apply (settings : RunSettings) (a : Adjustment) (id : String) :
    (a.apply settings).policies.find? id =
      if id = a.id then some (a.change ((settings.policies.find? a.id).getD .unchanged))
      else settings.policies.find? id := by
  rw [apply_eq_adjust]
  exact Table.find?_update ..

theorem isEnabled_apply_eq_false_iff :
    (a.apply settings).isEnabled id = false ↔ settings.isEnabled id = false ∨ a = .disable id := by
  rw [isEnabled, find?_apply]
  by_cases same : id = a.id
  · subst same
    cases a with
    | disable id => simp [Adjustment.id, Adjustment.change]
    | overrideSeverity id severity =>
        -- an entry that is new is not disabled, like one that was not there
        cases found : settings.policies.find? id <;>
          simp [Adjustment.id, Adjustment.change, isEnabled, found, PolicySetting.unchanged]
  · have other : a ≠ .disable id := fun equal => same (equal ▸ rfl)
    simp [same, other, isEnabled]

theorem severityOverride?_apply_eq_some_iff :
    (a.apply settings).severityOverride? id = some severity ↔
      a = .overrideSeverity id severity ∨
        (∀ other, a ≠ .overrideSeverity id other) ∧
          settings.severityOverride? id = some severity := by
  rw [severityOverride?, find?_apply]
  by_cases same : id = a.id
  · subst same
    cases a with
    | disable id =>
        cases found : settings.policies.find? id <;>
          simp [Adjustment.id, Adjustment.change, severityOverride?, found,
            PolicySetting.unchanged]
    | overrideSeverity id severity => simp [Adjustment.id, Adjustment.change]
  · have other : ∀ severity, a ≠ .overrideSeverity id severity :=
      fun severity equal => same (equal ▸ rfl)
    simp [same, other, severityOverride?]

/-- Calls of different kinds change different parts of a setting. -/
theorem change_comm (independent : a.Independent b) (same : a.id = b.id) (old : PolicySetting) :
    b.change (a.change old) = a.change (b.change old) := by
  cases independent with
  | apart different => exact absurd same different
  | disableFirst => rfl
  | overrideFirst => rfl

/-- Calls on different policies change different entries, and calls of different kinds different
parts of one. -/
theorem policies_apply_comm (independent : a.Independent b) (settings : RunSettings) :
    (b.apply (a.apply settings)).policies = (a.apply (b.apply settings)).policies := by
  refine Table.ext_find? fun id => ?_
  simp only [find?_apply]
  by_cases same : a.id = b.id
  · by_cases here : id = b.id
    · simp only [same, here, if_true, Option.getD_some, change_comm independent same]
    · simp only [same, here, if_false]
  · rw [if_neg same, if_neg (Ne.symm same)]
    by_cases onA : id = a.id
    · have notB : id ≠ b.id := fun onB => same (onA.symm.trans onB)
      rw [if_neg notB, if_pos onA, if_pos onA]
    · rw [if_neg onA, if_neg onA]

/-! ### All calls -/

theorem adjusted_cons (settings : RunSettings) (a : Adjustment) (calls : List Adjustment) :
    settings.adjusted (a :: calls) = (a.apply settings).adjusted calls :=
  rfl

theorem adjusted_append (settings : RunSettings) (before after : List Adjustment) :
    settings.adjusted (before ++ after) = (settings.adjusted before).adjusted after :=
  List.foldl_append

/-- Who is disabled was so at the start, or some call disables it; nothing enables it again. -/
theorem isEnabled_adjusted_eq_false_iff (calls : List Adjustment) :
    (settings.adjusted calls).isEnabled id = false ↔
      settings.isEnabled id = false ∨ .disable id ∈ calls := by
  induction calls generalizing settings with
  | nil => simp [adjusted]
  | cons a calls inductionHypothesis =>
      rw [adjusted_cons, inductionHypothesis, isEnabled_apply_eq_false_iff, List.mem_cons,
        or_assoc, eq_comm (a := a)]

theorem lastOverride_cons_iff {calls : List Adjustment} :
    LastOverride (a :: calls) id severity ↔
      LastOverride calls id severity ∨
        a = .overrideSeverity id severity ∧ ∀ other, .overrideSeverity id other ∉ calls := by
  constructor
  · rintro ⟨before, after, split, none⟩
    cases before with
    | nil =>
        obtain ⟨rfl, rfl⟩ := List.cons.inj split
        exact .inr ⟨rfl, none⟩
    | cons first before => exact .inl ⟨before, after, (List.cons.inj split).2, none⟩
  · rintro (⟨before, after, rfl, none⟩ | ⟨rfl, none⟩)
    · exact ⟨a :: before, after, rfl, none⟩
    · exact ⟨[], calls, rfl, none⟩

/-- The severity of a policy is that of the last call that overrides it, or else the one from the
start. -/
theorem severityOverride?_adjusted_eq_some_iff (calls : List Adjustment) :
    (settings.adjusted calls).severityOverride? id = some severity ↔
      LastOverride calls id severity ∨
        (∀ other, .overrideSeverity id other ∉ calls) ∧
          settings.severityOverride? id = some severity := by
  induction calls generalizing settings with
  | nil => simp [adjusted, LastOverride]
  | cons a calls inductionHypothesis =>
      rw [adjusted_cons, inductionHypothesis, severityOverride?_apply_eq_some_iff,
        lastOverride_cons_iff]
      simp only [List.mem_cons, not_or, forall_and, ne_comm (a := a), ← ne_eq]
      tauto

theorem find?_adjusted_of_unnamed {calls : List Adjustment} (unnamed : ∀ a ∈ calls, a.id ≠ id) :
    (settings.adjusted calls).policies.find? id = settings.policies.find? id := by
  induction calls generalizing settings with
  | nil => rfl
  | cons a calls inductionHypothesis =>
      obtain ⟨here, later⟩ := List.forall_mem_cons.mp unnamed
      rw [adjusted_cons, inductionHypothesis later, find?_apply, if_neg (Ne.symm here)]

/-- Calls change nothing but the settings of policies. -/
theorem adjusted_eq_with (settings : RunSettings) (calls : List Adjustment) :
    settings.adjusted calls = { settings with policies := (settings.adjusted calls).policies } := by
  induction calls generalizing settings with
  | nil => rfl
  | cons a calls inductionHypothesis =>
      rw [adjusted_cons]
      exact (inductionHypothesis (a.apply settings)).trans (by cases a <;> rfl)

/-- Two calls that are independent can be made in either order. -/
theorem adjusted_swap (settings : RunSettings) (independent : a.Independent b)
    (before after : List Adjustment) :
    settings.adjusted (before ++ a :: b :: after) =
      settings.adjusted (before ++ b :: a :: after) := by
  have swapped (settings : RunSettings) : settings.adjusted [a, b] = settings.adjusted [b, a] := by
    rw [adjusted_eq_with, adjusted_eq_with settings [b, a]]
    exact congrArg (fun policies => { settings with policies })
      (policies_apply_comm independent settings)
  rw [adjusted_append, adjusted_append]
  exact congrArg (adjusted · after) (swapped (settings.adjusted before))

end RunSettings

/-! ### The catalog -/

/-- The active policies of the catalog are those not disabled, in the order of the catalog. -/
theorem PolicySet.ids_configured_ofCatalog (settings : RunSettings) :
    (ofCatalog.configured settings).policies.map (·.id) = catalogIds.filter settings.isEnabled := by
  have ids : catalogIds = catalog.map (·.id) := by
    rw [catalog, List.map_map]
    rfl
  rw [ids, List.filter_map, configured, List.map_map]
  rfl

open RunSettings in
/-- Calls that adjust settings compose policy by policy.  Afterwards those policies are disabled
that were so at the start or that some call disables, and each has the severity of the last call
that overrides it, or else the one from the start.  Nothing else changes, calls that are independent
can be swapped, and the catalog has what is not disabled, in its order. -/
theorem RunSettings.adjustments_compose (settings : RunSettings) (calls : List Adjustment) :
    (∀ id, (settings.adjusted calls).isEnabled id = false ↔
      settings.isEnabled id = false ∨ .disable id ∈ calls) ∧
    (∀ id severity, (settings.adjusted calls).severityOverride? id = some severity ↔
      LastOverride calls id severity ∨
        (∀ other, .overrideSeverity id other ∉ calls) ∧
          settings.severityOverride? id = some severity) ∧
    (∀ id, (∀ a ∈ calls, a.id ≠ id) →
      (settings.adjusted calls).policies.find? id = settings.policies.find? id) ∧
    ((settings.adjusted calls).profile = settings.profile ∧
      (settings.adjusted calls).failOn = settings.failOn ∧
      (settings.adjusted calls).reportSkipped = settings.reportSkipped) ∧
    (∀ before a b after, calls = before ++ a :: b :: after → a.Independent b →
      settings.adjusted calls = settings.adjusted (before ++ b :: a :: after)) ∧
    ∃ set, catalogUnder (settings.adjusted calls) = .ok set ∧
      set.policies.map (·.id) =
        catalogIds.filter fun id => settings.isEnabled id && !calls.contains (.disable id) := by
  refine ⟨fun _ => isEnabled_adjusted_eq_false_iff calls,
    fun _ _ => severityOverride?_adjusted_eq_some_iff calls,
    fun _ => find?_adjusted_of_unnamed, ?_, ?_, ?_⟩
  · rw [adjusted_eq_with settings calls]
    exact ⟨rfl, rfl, rfl⟩
  · rintro before a b after rfl independent
    exact adjusted_swap settings independent before after
  · refine ⟨_, catalogUnder_eq_ok (settings.adjusted calls), ?_⟩
    rw [PolicySet.ids_configured_ofCatalog]
    refine List.filter_congr fun id _ => ?_
    rw [Bool.eq_iff_iff, ← Bool.not_eq_false, isEnabled_adjusted_eq_false_iff]
    simp

namespace RunSettings

/-- Calls on two policies of the catalog, one of them twice in each way. -/
def calls : List Adjustment :=
  [ .overrideSeverity "CKV_AZURE_CUSTOM_3" .high, .disable "CKV_AZURE_CUSTOM_3",
    .overrideSeverity "CKV_AZURE_CUSTOM_1" .medium, .overrideSeverity "CKV_AZURE_CUSTOM_1" .low ]

/-- The last override counts, a disabled policy is missing from the catalog, and the calls on one
policy can be made in either order. -/
theorem adjustments_compose_ofCatalog :
    (default.adjusted calls).severityOverride? "CKV_AZURE_CUSTOM_1" = some .low ∧
    (default.adjusted calls).policies.find? "CKV_AZURE_CUSTOM_2" =
      default.policies.find? "CKV_AZURE_CUSTOM_2" ∧
    default.adjusted calls =
      default.adjusted
        [ .disable "CKV_AZURE_CUSTOM_3", .overrideSeverity "CKV_AZURE_CUSTOM_3" .high,
          .overrideSeverity "CKV_AZURE_CUSTOM_1" .medium,
          .overrideSeverity "CKV_AZURE_CUSTOM_1" .low ] ∧
    ∃ set, catalogUnder (default.adjusted calls) = .ok set ∧
      set.policies.map (·.id) =
        [ "CKV_AZURE_CUSTOM_1", "CKV_AZURE_CUSTOM_2", "CKV_AZURE_CUSTOM_4", "CKV_AZURE_CUSTOM_5",
          "CKV_AZURE_CUSTOM_6" ] := by
  obtain ⟨-, severities, unnamed, -, swaps, set, built, ids⟩ := adjustments_compose default calls
  have last : LastOverride calls "CKV_AZURE_CUSTOM_1" .low :=
    ⟨calls.take 3, [], rfl, fun _ => List.not_mem_nil⟩
  exact ⟨(severities _ _).mpr (.inl last), unnamed _ (by decide),
    swaps [] _ _ _ rfl (.overrideFirst _ _ _), set, built, ids.trans (by decide +kernel)⟩

end RunSettings

end PolicyAudit
