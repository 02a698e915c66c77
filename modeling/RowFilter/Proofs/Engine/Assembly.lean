import Mathlib.Data.List.Induction
import RowFilter.Engine

/-! # The order of an engine's settings does not matter

A setting stands in up to four places of an engine. The invariant is that every part is the one
that the engine's settings describe; each call that changes a setting keeps it, so in the end only
the last call of each kind counts.
-/

namespace RowFilter

/-- A call that changes a setting. -/
inductive Setting where
  | config (config : Config)
  | registry (registry : Registry)
  | logger (logger : Logger)
  | formatter (formatter : CellFormatter)

inductive SettingKind where
  | config
  | registry
  | logger
  | formatter
  deriving DecidableEq

namespace Setting

def kind : Setting → SettingKind
  | config _ => .config
  | registry _ => .registry
  | logger _ => .logger
  | formatter _ => .formatter

/-- The last call of a kind. -/
def last? (kind : SettingKind) (calls : List Setting) : Option Setting :=
  (calls.filter fun s => s.kind == kind).getLast?

theorem last?_concat (kind : SettingKind) (calls : List Setting) (s : Setting) :
    last? kind (calls ++ [s]) = if s.kind = kind then some s else last? kind calls := by
  unfold last?
  rw [List.filter_append]
  by_cases same : s.kind = kind <;> simp [same]

/-- Only the last call of each kind, in any order. -/
def OnlyLast (calls kept : List Setting) : Prop :=
  ∀ kind, (kept.filter fun s => s.kind == kind) = (last? kind calls).toList

theorem OnlyLast.last? {calls kept : List Setting} (only : OnlyLast calls kept)
    (kind : SettingKind) : Setting.last? kind kept = Setting.last? kind calls := by
  rw [Setting.last?, only kind]
  cases Setting.last? kind calls <;> rfl

def config? : Setting → Option Config
  | config c => some c
  | _ => none

def registry? : Setting → Option Registry
  | registry r => some r
  | _ => none

def logger? : Setting → Option Logger
  | logger l => some l
  | _ => none

def formatter? : Setting → Option CellFormatter
  | formatter f => some f
  | _ => none

/-- The settings after some calls: what the last call of each kind says, or the standard. -/
def lastConfig (calls : List Setting) : Config := ((last? .config calls).bind config?).getD {}

def lastRegistry (common : Registry) (calls : List Setting) : Registry :=
  ((last? .registry calls).bind registry?).getD common

def lastLogger? (calls : List Setting) : Option Logger := (last? .logger calls).bind logger?

def lastFormatter? (calls : List Setting) : Option CellFormatter :=
  (last? .formatter calls).bind formatter?

end Setting

namespace Engine

/-- The engine of the last settings. -/
def ofCalls (schema : Schema) (common : Registry) (calls : List Setting) : Engine :=
  { schema, config := Setting.lastConfig calls
    registry := Setting.lastRegistry common calls
    logger := (Setting.lastLogger? calls).getD .discarding
    formatter := Setting.lastFormatter? calls }

def set (e : Engine) : Setting → Engine
  | .config config => { e with config }
  | .registry registry => { e with registry }
  | .logger logger => { e with logger }
  | .formatter formatter => { e with formatter := some formatter }

theorem ofCalls_concat (schema : Schema) (common : Registry) (calls : List Setting) (s : Setting) :
    ofCalls schema common (calls ++ [s]) = (ofCalls schema common calls).set s := by
  cases s <;>
    simp [ofCalls, set, Setting.lastConfig, Setting.lastRegistry, Setting.lastLogger?,
      Setting.lastFormatter?, Setting.last?_concat, Setting.kind, Setting.config?,
      Setting.registry?, Setting.logger?, Setting.formatter?]

/-- Put together from its settings, an engine has the parts that they describe. -/
theorem assembly_eq (e : Engine) :
    e.assembly = { compiler := e.compiler, validator := e.validator, migrator := e.migrator,
                   registry := e.registry, logger := some e.logger } := by
  unfold assembly
  cases e with
  | mk schema config registry logger formatter transforms => cases formatter <;> rfl

theorem assembly_validate [PatternEngine] (e : Engine) : e.assembly.validate = e.validate := by
  rw [assembly_eq]
  rfl

theorem assembly_migrate [PatternEngine] (e : Engine) : e.assembly.migrate = e.migrate := by
  rw [assembly_eq]
  rfl

theorem assembly_compiler (e : Engine) : e.assembly.compiler = e.compiler := by rw [assembly_eq]

end Engine

namespace Assembly

def apply (a : Assembly) : Setting → Assembly
  | .config config => a.withConfig config
  | .registry registry => a.withRegistry registry
  | .logger logger => a.withLogger logger
  | .formatter formatter => a.withFormatter formatter

/-- The engine after a sequence of calls. -/
def build (schema : Schema) (common : Registry) (calls : List Setting) : Assembly :=
  calls.foldl apply (new schema common)

/-- The settings of an engine, each read off at one place. -/
def settings (a : Assembly) : Engine :=
  { schema := a.compiler.schema, config := a.compiler.config, registry := a.registry,
    logger := a.logger.getD .discarding, formatter := a.compiler.formatter,
    transforms := a.migrator.transforms }

/-- Every part is the one that the settings describe. -/
structure Coherent (a : Assembly) : Prop where
  compiler : a.compiler = a.settings.compiler
  validator : a.validator = a.settings.validator
  migrator : a.migrator = a.settings.migrator

theorem coherent_new (schema : Schema) (common : Registry) : (new schema common).Coherent :=
  ⟨rfl, rfl, rfl⟩

/-- A call that changes a setting changes it in every part. -/
theorem Coherent.apply {a : Assembly} (coherent : a.Coherent) (s : Setting) :
    (a.apply s).Coherent := by
  cases s with
  | config config =>
      refine ⟨congrArg (fun k => { k with config }) coherent.compiler, ?_, coherent.migrator⟩
      -- The validator is new, so nothing is known of it but what it was made from.
      obtain ⟨compiler, validator, migrator, registry, logger⟩ := a
      cases logger <;> rfl
  | registry registry =>
      exact ⟨congrArg (fun k => { k with registry }) coherent.compiler,
        congrArg (fun v => { v with registry := some registry }) coherent.validator,
        congrArg (fun m => { m with registry := some registry }) coherent.migrator⟩
  | logger logger =>
      exact ⟨coherent.compiler, congrArg (fun v => { v with logger }) coherent.validator,
        congrArg (fun m => { m with logger }) coherent.migrator⟩
  | formatter formatter =>
      exact ⟨congrArg (fun k => { k with formatter := some formatter }) coherent.compiler,
        coherent.validator, coherent.migrator⟩

theorem build_concat (schema : Schema) (common : Registry) (calls : List Setting) (s : Setting) :
    build schema common (calls ++ [s]) = (build schema common calls).apply s := by
  rw [build, List.foldl_append]
  rfl

theorem coherent_build (schema : Schema) (common : Registry) (calls : List Setting) :
    (build schema common calls).Coherent := by
  induction calls using List.reverseRecOn with
  | nil => exact coherent_new schema common
  | append_singleton calls s ih =>
      rw [build_concat]
      exact ih.apply s

theorem settings_apply (a : Assembly) (s : Setting) :
    (a.apply s).settings = a.settings.set s := by
  cases s <;> rfl

/-- Of the settings, the last call of each kind is what stands. -/
theorem settings_build (schema : Schema) (common : Registry) (calls : List Setting) :
    (build schema common calls).settings = .ofCalls schema common calls := by
  induction calls using List.reverseRecOn with
  | nil => rfl
  | append_singleton calls s ih => rw [build_concat, settings_apply, ih, Engine.ofCalls_concat]

theorem logger_build (schema : Schema) (common : Registry) (calls : List Setting) :
    (build schema common calls).logger = Setting.lastLogger? calls := by
  induction calls using List.reverseRecOn with
  | nil => rfl
  | append_singleton calls s ih =>
      rw [build_concat, Setting.lastLogger?, Setting.last?_concat]
      cases s with
      | logger logger => rfl
      | config _ | registry _ | formatter _ => exact ih

/-- Two engines with the same settings are the same. -/
theorem Coherent.eq_of_settings {a b : Assembly} (coherentA : a.Coherent) (coherentB : b.Coherent)
    (settings : a.settings = b.settings) (logger : a.logger = b.logger) : a = b := by
  have compiler : a.compiler = b.compiler := by
    rw [coherentA.compiler, coherentB.compiler, settings]
  have validator : a.validator = b.validator := by
    rw [coherentA.validator, coherentB.validator, settings]
  have migrator : a.migrator = b.migrator := by
    rw [coherentA.migrator, coherentB.migrator, settings]
  have registry : a.registry = b.registry := congrArg Engine.registry settings
  cases a
  cases b
  simp_all

/-- Only the last call of each kind counts, in whatever order: the engines are the same. All parts
share one registry, the validator keeps to the limits and the allow-list of the configuration, and
validator and migrator use the last logger. -/
theorem build_of_last (schema : Schema) (common : Registry) {calls kept : List Setting}
    (only : Setting.OnlyLast calls kept) :
    let a := build schema common calls
    build schema common kept = a ∧
      (a.registry = Setting.lastRegistry common calls ∧ a.compiler.registry = a.registry ∧
        a.validator.registry = some a.registry ∧ a.migrator.registry = some a.registry) ∧
      (a.compiler.config = Setting.lastConfig calls ∧
        a.validator.limits = a.compiler.config.limits ∧
        a.validator.allowed = a.compiler.config.allowedFields) ∧
      (a.logger = Setting.lastLogger? calls ∧ a.validator.logger = a.logger.getD .discarding ∧
        a.migrator.logger = a.logger.getD .discarding) ∧
      a.compiler.formatter = Setting.lastFormatter? calls := by
  intro a
  have coherent : a.Coherent := coherent_build schema common calls
  have settings : a.settings = .ofCalls schema common calls := settings_build schema common calls
  have logger : a.logger = Setting.lastLogger? calls := logger_build schema common calls
  have same : build schema common kept = a := by
    refine (coherent_build schema common kept).eq_of_settings coherent ?_ ?_
    · rw [settings, settings_build]
      simp only [Engine.ofCalls, Setting.lastConfig, Setting.lastRegistry, Setting.lastLogger?,
        Setting.lastFormatter?, only.last?]
    · rw [logger, logger_build, Setting.lastLogger?, Setting.lastLogger?, only.last?]
  exact ⟨same,
    ⟨congrArg Engine.registry settings, congrArg Compiler.registry coherent.compiler,
      congrArg Validator.registry coherent.validator, congrArg Migrator.registry coherent.migrator⟩,
    ⟨congrArg Engine.config settings, congrArg Validator.limits coherent.validator,
      congrArg Validator.allowed coherent.validator⟩,
    ⟨logger, congrArg Validator.logger coherent.validator,
      congrArg Migrator.logger coherent.migrator⟩,
    congrArg Engine.formatter settings⟩

/-- Settings given twice, and the last of them in another order. -/
theorem build_of_last_shuffled :
    let schema : Schema := { name := "User", fields := .ofList [("name", {})] }
    let restricted : Config := { allowedFields := some ["name"] }
    let shown : CellFormatter := fun _ v _ => some v
    let calls : List Setting :=
      [.logger .discarding, .config restricted, .logger .keeping, .registry .empty,
       .config { strictValidation := true }, .formatter shown]
    let kept : List Setting :=
      [.formatter shown, .config { strictValidation := true }, .registry .empty, .logger .keeping]
    Setting.OnlyLast calls kept ∧ build schema .empty kept = build schema .empty calls ∧
      (build schema .empty calls).validator.allowed = none ∧
      (build schema .empty calls).validator.logger = .keeping := by
  intro schema restricted shown calls kept
  have only : Setting.OnlyLast calls kept := by
    intro kind
    cases kind <;> rfl
  obtain ⟨same, -, ⟨config, -, allowed⟩, ⟨logger, ofValidator, -⟩, -⟩ :=
    build_of_last schema .empty only
  rw [config] at allowed
  rw [logger] at ofValidator
  exact ⟨only, same, allowed, ofValidator⟩

end Assembly

end RowFilter
