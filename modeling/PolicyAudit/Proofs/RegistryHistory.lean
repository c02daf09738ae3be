/-
Module: PolicyAudit.Proofs.RegistryHistory
Purpose: What becomes of policies that are registered and configured step by step.
Imports: Mathlib.Data.List.Forall2, PolicyAudit.Policy.Catalog
Trusted boundary: none
Main exports: Registry.Step, Registry.after, Registry.registrations, RunSettings.disables,
  RunSettings.Assigns, Policy.SeverityAfter, Policy.ComesOutAs, Registry.LeftOf, Policy.under?,
  Policy.comesOutAs_iff, Registry.leftOf_iff, Registry.policies_run,
  Registry.configure_configure, Registry.after_history
-/
import Mathlib.Data.List.Forall2
import PolicyAudit.Policy.Catalog

namespace PolicyAudit

/-! ### Steps -/

namespace Registry

/-- A step in making a registry. -/
inductive Step where
  | register (p : Policy)
  | registerCatalog
  | configure (settings : RunSettings)

namespace Step

def apply (r : Registry) : Step → Registry
  | register p => r.register p
  | registerCatalog => r.registerAll catalog
  | configure settings => r.configure settings

/-- The policies that a step registers, in order. -/
def registered : Step → List Policy
  | register p => [p]
  | registerCatalog => catalog
  | configure _ => []

/-- The settings that a step configures with, if it configures. -/
def settings? : Step → Option RunSettings
  | register _ => none
  | registerCatalog => none
  | configure settings => some settings

end Step

def run (r : Registry) (steps : List Step) : Registry :=
  steps.foldl Step.apply r

/-- The registry that steps make from nothing. -/
def after (steps : List Step) : Registry :=
  empty.run steps

/-- The settings of the steps that configure, in order. -/
def configurations (steps : List Step) : List RunSettings :=
  steps.filterMap (·.settings?)

/-- The registered policies in the order of their registration, each with the settings of the steps
after it that configure. -/
def registrations : List Step → List (Policy × List RunSettings)
  | [] => []
  | step :: later => step.registered.map (·, configurations later) ++ registrations later

end Registry

/-! ### Policies under settings that follow each other -/

namespace RunSettings

variable (settings : RunSettings) (id : String)

/-- Settings disable a policy if they say so of its identifier. -/
def disables : Bool :=
  (settings.policies.find? id).any fun setting => setting.enabled = some false

/-- Settings assign a severity to a policy if they have it for its identifier. -/
def Assigns (severity : Severity) : Prop :=
  ∃ setting, settings.policies.find? id = some setting ∧ setting.severity = some severity

end RunSettings

namespace Policy

/-- The severity of a policy after settings that follow each other: the one that the last of them to
assign one assigns, or else the one that the policy was registered with. -/
inductive SeverityAfter (p : Policy) : List RunSettings → Severity → Prop where
  | assigned {before after : List RunSettings} {settings : RunSettings} {severity : Severity}
      (assigns : settings.Assigns p.id severity)
      (last : ∀ later ∈ after, ∀ other, ¬later.Assigns p.id other) :
      SeverityAfter p (before ++ settings :: after) severity
  | registered {inOrder : List RunSettings}
      (never : ∀ settings ∈ inOrder, ∀ other, ¬settings.Assigns p.id other) :
      SeverityAfter p inOrder p.severity

/-- A policy comes out of settings as another one: only the severity may differ, and it is the one
after these settings. -/
structure ComesOutAs (p : Policy) (inOrder : List RunSettings) (q : Policy) : Prop where
  severity : p.SeverityAfter inOrder q.severity
  others : q = { p with severity := q.severity }

end Policy

/-- The policies that are left of registered ones, each under the settings that come with it: those
that none of its settings disables, in their order, as they come out of these settings. -/
def Registry.LeftOf (registered : List (Policy × List RunSettings)) (left : List Policy) : Prop :=
  List.Forall₂ (fun entry q => entry.1.ComesOutAs entry.2 q)
    (registered.filter fun entry => !entry.2.any (·.disables entry.1.id)) left

namespace Policy

/-- The policy with the severity that is found last in settings, or else its own. -/
def withLastSeverity (p : Policy) (inOrder : List RunSettings) : Policy :=
  { p with
    severity := (inOrder.reverse.findSome? (·.severityOverride? p.id)).getD p.severity }

/-- What is left of a policy after settings in their order: nothing if any of them disable it,
otherwise the policy with the severity that they give it. -/
def under? (p : Policy) (inOrder : List RunSettings) : Option Policy :=
  if inOrder.any (·.disables p.id) then none else some (p.withLastSeverity inOrder)

end Policy

theorem RunSettings.assigns_iff {settings : RunSettings} {id : String} {severity : Severity} :
    settings.Assigns id severity ↔ settings.severityOverride? id = some severity :=
  Option.bind_eq_some_iff.symm

/-- No settings assign a severity just if there is none to be found in them. -/
theorem RunSettings.neverAssign_iff {inOrder : List RunSettings} {id : String} :
    (∀ settings ∈ inOrder, ∀ other, ¬settings.Assigns id other) ↔
      inOrder.reverse.findSome? (·.severityOverride? id) = none := by
  simp only [assigns_iff, ← ne_eq, ← Option.eq_none_iff_forall_ne_some,
    List.findSome?_eq_none_iff, List.mem_reverse]

theorem RunSettings.isEnabled_eq_not_disables (settings : RunSettings) (id : String) :
    settings.isEnabled id = !settings.disables id := by
  unfold RunSettings.isEnabled RunSettings.disables
  cases settings.policies.find? id with
  | none => rfl
  | some setting =>
      obtain ⟨enabled, severity⟩ := setting
      cases enabled with
      | none => rfl
      | some value => cases value <;> rfl

namespace Policy

theorem severityAfter_iff {p : Policy} {inOrder : List RunSettings} {severity : Severity} :
    p.SeverityAfter inOrder severity ↔
      severity = (inOrder.reverse.findSome? (·.severityOverride? p.id)).getD p.severity := by
  constructor
  · intro after
    cases after with
    | assigned assigns last =>
        rw [List.reverse_append, List.reverse_cons, List.append_assoc, List.findSome?_append,
          RunSettings.neverAssign_iff.mp last, List.singleton_append, List.findSome?_cons,
          RunSettings.assigns_iff.mp assigns]
        rfl
    | registered never =>
        rw [RunSettings.neverAssign_iff.mp never]
        rfl
  · rintro rfl
    cases found : inOrder.reverse.findSome? (·.severityOverride? p.id) with
    | none => exact .registered (RunSettings.neverAssign_iff.mpr found)
    | some severity =>
        obtain ⟨after, settings, before, split, assigns, last⟩ :=
          List.findSome?_eq_some_iff.mp found
        have inTime : inOrder = before.reverse ++ settings :: after.reverse := by
          rw [← inOrder.reverse_reverse, split]
          simp
        rw [inTime]
        refine .assigned (RunSettings.assigns_iff.mpr assigns) (RunSettings.neverAssign_iff.mpr ?_)
        rwa [List.reverse_reverse, List.findSome?_eq_none_iff]

theorem comesOutAs_iff {p q : Policy} {inOrder : List RunSettings} :
    p.ComesOutAs inOrder q ↔ q = p.withLastSeverity inOrder := by
  constructor
  · rintro ⟨severity, others⟩
    rw [others, severityAfter_iff.mp severity]
    rfl
  · rintro rfl
    exact ⟨severityAfter_iff.mpr rfl, rfl⟩

theorem under?_nil (p : Policy) : p.under? [] = some p :=
  rfl

/-- The first settings act on a policy before the others do. -/
theorem under?_cons (p : Policy) (settings : RunSettings) (later : List RunSettings) :
    p.under? (settings :: later) =
      if settings.isEnabled p.id then (p.underSettings settings).under? later else none := by
  have severity : ((settings :: later).reverse.findSome? (·.severityOverride? p.id)).getD
      p.severity = (later.reverse.findSome? (·.severityOverride? p.id)).getD
        ((settings.severityOverride? p.id).getD p.severity) := by
    rw [List.reverse_cons, List.findSome?_append]
    cases later.reverse.findSome? (·.severityOverride? p.id) with
    | some last => rfl
    | none => simp
  rw [settings.isEnabled_eq_not_disables, under?, withLastSeverity, severity, List.any_cons]
  cases settings.disables p.id with
  | true => rfl
  | false => rfl

end Policy

namespace Registry

/-- What is left of registered policies is found one by one. -/
theorem leftOf_iff {registered : List (Policy × List RunSettings)} {left : List Policy} :
    LeftOf registered left ↔ left = registered.filterMap fun entry => entry.1.under? entry.2 := by
  induction registered generalizing left with
  | nil => exact List.forall₂_nil_left_iff
  | cons entry registered inductionHypothesis =>
      obtain ⟨p, later⟩ := entry
      unfold LeftOf at inductionHypothesis ⊢
      cases disabled : later.any (·.disables p.id) with
      | true =>
          have gone : p.under? later = none := if_pos disabled
          rw [List.filterMap_cons_none (by exact gone),
            List.filter_cons_of_neg (by simp [disabled]), inductionHypothesis]
      | false =>
          have stays : p.under? later = some (p.withLastSeverity later) :=
            if_neg (by simp [disabled])
          rw [List.filterMap_cons_some (by exact stays),
            List.filter_cons_of_pos (by simp [disabled]), List.forall₂_cons_left_iff]
          constructor
          · rintro ⟨q, others, first, rest, rfl⟩
            rw [Policy.comesOutAs_iff.mp first, inductionHypothesis.mp rest]
          · intro same
            exact ⟨_, _, Policy.comesOutAs_iff.mpr rfl, inductionHypothesis.mpr rfl, same⟩

/-! ### Runs of steps -/

/-- Configuring once leaves of each policy what the later steps then act on. -/
theorem filterMap_configure (r : Registry) (settings : RunSettings) (later : List RunSettings) :
    (r.configure settings).policies.filterMap (·.under? later) =
      r.policies.filterMap (·.under? (settings :: later)) := by
  have step : (fun p : Policy => p.under? (settings :: later)) = fun p =>
      if settings.isEnabled p.id then (p.underSettings settings).under? later else none :=
    funext fun p => p.under?_cons settings later
  rw [configure, List.filterMap_map, List.filterMap_filter, step]
  rfl

/-- Policies that are registered together meet the same settings. -/
theorem filterMap_registered (ps : List Policy) (later : List RunSettings) :
    (ps.map (·, later)).filterMap (fun entry => entry.1.under? entry.2) =
      ps.filterMap (·.under? later) := by
  rw [List.filterMap_map]
  rfl

/-- Steps act on the policies that were registered before them by their settings alone, and add
what is left of the policies that they register. -/
theorem policies_run (r : Registry) (steps : List Step) :
    (r.run steps).policies =
      r.policies.filterMap (·.under? (configurations steps)) ++
        (registrations steps).filterMap fun entry => entry.1.under? entry.2 := by
  induction steps generalizing r with
  | nil => simp [run, configurations, registrations, Policy.under?_nil]
  | cons step later inductionHypothesis =>
      have first : (r.run (step :: later)).policies = ((step.apply r).run later).policies := rfl
      rw [first, inductionHypothesis, registrations, List.filterMap_append, filterMap_registered,
        ← List.append_assoc]
      cases step with
      | register p =>
          rw [Step.apply, register, List.filterMap_append]
          rfl
      | registerCatalog =>
          rw [Step.apply, registerAll, List.filterMap_append]
          rfl
      | configure settings =>
          rw [Step.apply, filterMap_configure]
          exact congrArg (· ++ _) (List.append_nil _).symm

theorem run_append (r : Registry) (before later : List Step) :
    r.run (before ++ later) = (r.run before).run later :=
  List.foldl_append

theorem policies_after_eq (steps : List Step) :
    (after steps).policies =
      (registrations steps).filterMap fun entry => entry.1.under? entry.2 := by
  rw [after, policies_run]
  rfl

/-- Settings do nothing more when they are applied once more. -/
theorem configure_configure (r : Registry) (settings : RunSettings) :
    (r.configure settings).configure settings = r.configure settings := by
  have relabelled : ∀ p : Policy, (p.underSettings settings).underSettings settings =
      p.underSettings settings := by
    intro p
    unfold Policy.underSettings
    cases settings.severityOverride? p.id with
    | none => rfl
    | some severity => rfl
  have kept : (fun p : Policy => settings.isEnabled p.id) ∘ Policy.underSettings settings =
      fun p => settings.isEnabled p.id := rfl
  rw [configure, configure, List.filter_map, kept, List.filter_filter, List.map_map]
  congr 1
  simp [Function.comp_def, relabelled]

/-- The policies after steps are what is left of the registered ones under the settings that came
after each of them.  Settings do not act on policies that are registered later, which come out as
they would without the steps before them, and to configure again at once changes nothing. -/
theorem after_history :
    (∀ steps, LeftOf (registrations steps) (after steps).policies) ∧
    (∀ before settings later, ∃ kept,
      LeftOf ((after before).policies.map (·, settings :: configurations later)) kept ∧
        (after (before ++ .configure settings :: later)).policies =
          kept ++ (after later).policies) ∧
    ∀ before settings later,
      after (before ++ .configure settings :: .configure settings :: later) =
        after (before ++ .configure settings :: later) := by
  refine ⟨fun steps => leftOf_iff.mpr (policies_after_eq steps), ?_, ?_⟩
  · intro before settings later
    refine ⟨_, leftOf_iff.mpr rfl, ?_⟩
    have configured : after (before ++ .configure settings :: later) =
        (after before).run (.configure settings :: later) :=
      run_append empty before (.configure settings :: later)
    rw [configured, policies_run, filterMap_registered, policies_after_eq later]
    rfl
  · intro before settings later
    have again : ((after before).configure settings).configure settings =
        (after before).configure settings :=
      configure_configure (after before) settings
    rw [after, run_append, after, run_append]
    exact congrArg (run · later) again

/-- A policy of low severity whose rule passes everything. -/
def lowPolicy (id : String) : Policy :=
  ⟨id, "passes", .logging, .low, ["type"], fun _ => .ok .passed⟩

/-- The first policy is overridden twice before settings that do not mention it, of the catalog one
policy is overridden and one disabled, and the last policy is registered after settings for it. -/
def history : List Step :=
  [ .register (lowPolicy "T_1"),
    .configure (RunSettings.default.overrideSeverity "T_1" .critical),
    .registerCatalog,
    .configure ((RunSettings.default.overrideSeverity "T_1" .high).disable "CKV_AZURE_CUSTOM_2"),
    .configure
      ((RunSettings.default.disable "T_2").overrideSeverity "CKV_AZURE_CUSTOM_3" .critical),
    .register (lowPolicy "T_2") ]

theorem after_history_ofOverrides :
    (after history).policies.map (fun p => (p.id, p.severity)) =
      [ ("T_1", .high), ("CKV_AZURE_CUSTOM_1", .high), ("CKV_AZURE_CUSTOM_3", .critical),
        ("CKV_AZURE_CUSTOM_4", .high), ("CKV_AZURE_CUSTOM_5", .medium),
        ("CKV_AZURE_CUSTOM_6", .low), ("T_2", .low) ] := by
  have left := after_history.1 history
  rw [leftOf_iff] at left
  rw [left]
  decide +kernel

end Registry

end PolicyAudit
