import RankedSql.Proofs.RegistryGrowth

/-!
# The hooks that are invoked

Which hooks run before a statement is written can be told from the history of registrations. A run
of registry steps leaves the registrations in the order in which they were made, whatever came
between them (`Registry.hooks_afterSteps`). Firing picks from them those under the phase and the
table of the statement and then, for a selection, those under the fields of the conditions that the
first ones leave; it applies each of the picked ones once, in this order
(`Registry.fire_invokes_registered`).

What is picked is settled before the first hook of a field runs, so these hooks may add and remove
conditions as they like. Registrations that are not picked have no part in the outcome.
-/

namespace RankedSql

/-! ## Registrations of a run -/

/-- The hook that a change registers. -/
def RegistryChange.registered? : RegistryChange → Option RegisteredHook
  | .registerHook phase key hook => some ⟨phase, key, hook⟩
  | _ => none

namespace Registry

/-- The hooks that a run registers, in order: those of direct changes, and those that the table
definitions that succeed ask for. -/
def registrations : Registry → List RegistryStep → List RegisteredHook
  | _, [] => []
  | registry, step :: rest =>
      (step.changes registry).filterMap RegistryChange.registered? ++
        registrations (step.apply registry) rest

theorem hooks_afterChanges (registry : Registry) (changes : List RegistryChange) :
    (registry.afterChanges changes).hooks =
      registry.hooks ++ changes.filterMap RegistryChange.registered? := by
  induction changes generalizing registry with
  | nil => exact (List.append_nil _).symm
  | cons made rest ih =>
      have later := ih (registry.change made).1
      cases made with
      | registerHook phase key hook =>
          rw [change, registerHook, List.append_assoc] at later
          exact later
      | defineTable | registerColumn | observe | announce => exact later

/-- After a run, the registry holds its registrations behind those that were there before. -/
theorem hooks_afterSteps (registry : Registry) (steps : List RegistryStep) :
    (registry.afterSteps steps).hooks = registry.hooks ++ registry.registrations steps := by
  induction steps generalizing registry with
  | nil => exact (List.append_nil _).symm
  | cons step rest ih =>
      have later := ih (step.apply registry)
      rw [step.apply_eq_afterChanges, hooks_afterChanges, List.append_assoc,
        ← step.apply_eq_afterChanges] at later
      exact later

end Registry

/-! ## Invocations -/

/-- The registrations for a phase and a key, in order. -/
def registeredUnder (history : List RegisteredHook) (phase : Phase) (key : String) :
    List RegisteredHook :=
  history.filter fun entry => entry.phase == phase && entry.key == key

/-- Applies registered hooks one after the other, each once. -/
def invokeAll (entries : List RegisteredHook) (state : HookState) : HookState :=
  entries.foldl (fun state entry => entry.hook.run state) state

/-- The label of a hook that reports. -/
def Hook.reportLabel? : Hook → Option String
  | .report label => some label
  | _ => none

/-- The label that a report shows. -/
def Notice.hookLabel? : Notice → Option String
  | .hookRan label _ => some label
  | _ => none

/-- The fields of the conditions that a selection is left with; other statements have no hooks of
fields. -/
def hookedFields (phase : Phase) (parts : List Part) : List String :=
  if phase = .beforeSelect then conditionFields parts else []

/-- The registrations that a statement of a given phase and table invokes, in order: those of the
table, then those of each field of a condition that these leave. -/
def invokedHooks (history : List RegisteredHook) (phase : Phase) (table : String)
    (state : HookState) : List RegisteredHook :=
  let own := registeredUnder history phase table
  own ++ (hookedFields phase (invokeAll own state).parts).flatMap fun field =>
    registeredUnder history phase (table ++ "." ++ field)

section Invocations

variable {history : List RegisteredHook} {state : HookState} {phase : Phase} {table : String}

theorem invokeAll_append (left right : List RegisteredHook) (state : HookState) :
    invokeAll (left ++ right) state = invokeAll right (invokeAll left state) :=
  List.foldl_append

theorem invokeAll_flatMap {α : Type} (keys : List α) (entries : α → List RegisteredHook)
    (state : HookState) :
    invokeAll (keys.flatMap entries) state =
      keys.foldl (fun state key => invokeAll (entries key) state) state :=
  List.foldl_flatMap

theorem mem_registeredUnder_iff {entry : RegisteredHook} {key : String} :
    entry ∈ registeredUnder history phase key ↔
      entry ∈ history ∧ entry.phase = phase ∧ entry.key = key := by
  simp [registeredUnder]

/-- Hooks that only change the parts make of them what they are as functions. -/
theorem parts_invokeAll {entries : List RegisteredHook} {edits : List (List Part → List Part)}
    (pure : entries.map RegisteredHook.hook = edits.map Hook.amend) (state : HookState) :
    (invokeAll entries state).parts = edits.foldl (fun parts edit => edit parts) state.parts := by
  induction entries generalizing edits state with
  | nil =>
      rw [List.map_eq_nil_iff.1 pure.symm]
      rfl
  | cons entry rest ih =>
      cases edits with
      | nil => cases pure
      | cons edit edits =>
          rcases List.cons.inj pure with ⟨hook_eq, pureRest⟩
          have first : entry.hook.run state = { state with parts := edit state.parts } := by
            rw [hook_eq]
            rfl
          rw [invokeAll, List.foldl_cons, first]
          exact ih pureRest _

/-- Every invocation of a reporting hook leaves one report. -/
theorem reports_invokeAll (entries : List RegisteredHook) (state : HookState) :
    (invokeAll entries state).notices.filterMap Notice.hookLabel? =
      state.notices.filterMap Notice.hookLabel? ++
        entries.filterMap fun entry => entry.hook.reportLabel? := by
  induction entries generalizing state with
  | nil => exact (List.append_nil _).symm
  | cons entry rest ih =>
      have first : (entry.hook.run state).notices.filterMap Notice.hookLabel? =
          state.notices.filterMap Notice.hookLabel? ++ entry.hook.reportLabel?.toList := by
        cases hook_eq : entry.hook with
        | report label => simp [Hook.run, Hook.reportLabel?, Notice.hookLabel?]
        | touchUpdatedAt | amend => exact (List.append_nil _).symm
        | generatedIdentifier column =>
            rw [Hook.run]
            split
            · split <;> exact (List.append_nil _).symm
            · exact (List.append_nil _).symm
      rw [invokeAll, List.foldl_cons, ← invokeAll, ih, first, List.append_assoc]
      congr 1
      cases label : entry.hook.reportLabel? <;> simp [label]

/-- What is invoked depends on the registrations for the table and its hooked fields only. -/
theorem invokedHooks_congr {other : List RegisteredHook}
    (sameOwn : registeredUnder other phase table = registeredUnder history phase table)
    (sameFields : ∀ field ∈
        hookedFields phase (invokeAll (registeredUnder history phase table) state).parts,
      registeredUnder other phase (table ++ "." ++ field) =
        registeredUnder history phase (table ++ "." ++ field)) :
    invokedHooks other phase table state = invokedHooks history phase table state := by
  simp only [invokedHooks, sameOwn]
  rw [List.flatMap_congr sameFields]

theorem mem_invokedHooks_iff {entry : RegisteredHook} :
    entry ∈ invokedHooks history phase table state ↔
      entry ∈ history ∧ entry.phase = phase ∧ (entry.key = table ∨ ∃ field ∈
        hookedFields phase (invokeAll (registeredUnder history phase table) state).parts,
          entry.key = table ++ "." ++ field) := by
  simp only [invokedHooks, List.mem_append, List.mem_flatMap, mem_registeredUnder_iff]
  grind

end Invocations

/-- Whether a phase is one of those that come before a statement is written. -/
def Phase.isBefore : Phase → Bool
  | .beforeInsert | .beforeUpdate | .beforeSelect => true
  | .afterInsert | .afterUpdate | .afterSelect => false

/-- The phase of a statement comes before it is written. -/
theorem isBefore_of_statementPhase? {parts : List Part} {phase : Phase} {table : String}
    (found : statementPhase? parts = some (phase, table)) : phase.isBefore = true := by
  unfold statementPhase? at found
  split at found
  · next pair writes =>
      rcases Option.some.inj found with rfl
      rcases List.exists_of_findSome?_eq_some writes with ⟨part, _, written⟩
      unfold Part.writePhase? at written
      split at written
      · exact (Prod.mk.inj (Option.some.inj written)).1 ▸ rfl
      · exact (Prod.mk.inj (Option.some.inj written)).1 ▸ rfl
      · cases written
  · split at found
    · rcases Option.map_eq_some_iff.1 found with ⟨source, _, same⟩
      exact (Prod.mk.inj same).1 ▸ rfl
    · cases found

namespace Registry

/-- Firing invokes the picked hooks one after the other. -/
theorem runPhase_eq_invokeAll (registry : Registry) (phase : Phase) (table : String)
    (state : HookState) :
    registry.runPhase phase table state =
      invokeAll (invokedHooks registry.hooks phase table state) state := by
  have own (key : String) (state : HookState) :
      runHooks (registry.hooksFor phase key) state =
        invokeAll (registeredUnder registry.hooks phase key) state := by
    rw [runHooks, hooksFor, List.foldl_map]
    rfl
  rw [runPhase, invokedHooks, invokeAll_append, invokeAll_flatMap, own]
  unfold hookedFields
  split
  · simp only [runFieldHooks, own]
    rfl
  · rfl

/-- A statement without a literal and with a phase is fired by invoking the picked hooks. -/
theorem fire_eq_invokeAll {registry : Registry} {statement : Statement}
    (noLiteral : statement.literal = none) {phase : Phase} {table : String}
    (found : statementPhase? statement.parts = some (phase, table)) {supply : IdentifierSupply}
    {start : HookState} (starts : start = ⟨statement.parts, supply, []⟩)
    {invoked : List RegisteredHook}
    (picked : invokedHooks registry.hooks phase table start = invoked) :
    registry.fire supply statement =
      ⟨some phase, { statement with parts := (invokeAll invoked start).parts },
        (invokeAll invoked start).identifiers, (invokeAll invoked start).notices⟩ := by
  simp only [fire, noLiteral, found, runPhase_eq_invokeAll, ← starts, picked]

/-- Which hooks run before a statement, over any registry that a run leaves. With a literal, or
without a phase, nothing happens. Else the statement has the phase and the table that its parts have
before any hook runs, and each hook that is invoked is applied once, in this order: those registered
for the phase and the table, in the order of the registrations, and then, for a selection, those
registered for each field of a condition that is there after them, field by field and again for
each repetition. Every hook invoked is registered for the phase, which comes before a statement, and
for the table or one of these fields; a registry that differs in other registrations, or in none,
fires alike. -/
theorem fire_invokes_registered (before : Registry) (steps : List RegistryStep)
    (supply : IdentifierSupply) (statement : Statement) :
    let registry := before.afterSteps steps
    let history := before.hooks ++ before.registrations steps
    let firing := registry.fire supply statement
    (statement.literal ≠ none ∨ statementPhase? statement.parts = none →
      firing = ⟨none, statement, supply, []⟩) ∧
    ∀ phase table, statement.literal = none →
      statementPhase? statement.parts = some (phase, table) →
      let start : HookState := ⟨statement.parts, supply, []⟩
      let own := registeredUnder history phase table
      let fields := hookedFields phase (invokeAll own start).parts
      let invoked := own ++ fields.flatMap fun field =>
        registeredUnder history phase (table ++ "." ++ field)
      let final := invokeAll invoked start
      firing = ⟨some phase, { statement with parts := final.parts }, final.identifiers,
        final.notices⟩ ∧
      (∀ edits : List (List Part → List Part),
        invoked.map RegisteredHook.hook = edits.map Hook.amend →
          firing.statement.parts = edits.foldl (fun parts edit => edit parts) statement.parts) ∧
      firing.notices.filterMap Notice.hookLabel? =
        invoked.filterMap (fun entry => entry.hook.reportLabel?) ∧
      (∀ entry ∈ invoked, entry ∈ history ∧ entry.phase = phase ∧ phase.isBefore = true ∧
        (entry.key = table ∨ ∃ field ∈ fields, entry.key = table ++ "." ++ field)) ∧
      ∀ other : Registry, registeredUnder other.hooks phase table = own →
        (∀ field ∈ fields, registeredUnder other.hooks phase (table ++ "." ++ field) =
          registeredUnder history phase (table ++ "." ++ field)) →
        other.fire supply statement = firing := by
  intro registry history firing
  have hooks_eq : registry.hooks = history := before.hooks_afterSteps steps
  constructor
  · rintro (literal | noPhase)
    · cases given : statement.literal with
      | none => exact absurd given literal
      | some sql => simp only [firing, fire, given]
    · simp only [firing, fire, noPhase]
      split
      · next contra => cases contra
      · rfl
  · intro phase table noLiteral found start own fields invoked final
    have fired : firing = ⟨some phase, { statement with parts := final.parts },
        final.identifiers, final.notices⟩ :=
      fire_eq_invokeAll noLiteral found rfl (by rw [hooks_eq, invokedHooks])
    refine ⟨fired, ?_, ?_, ?_, ?_⟩
    · intro edits pure
      rw [fired]
      exact parts_invokeAll pure start
    · rw [fired]
      exact reports_invokeAll invoked start
    · intro entry member
      rcases mem_invokedHooks_iff.1 member with ⟨registered, samePhase, key⟩
      exact ⟨registered, samePhase, isBefore_of_statementPhase? found, key⟩
    · intro other sameOwn sameFields
      have picked : invokedHooks other.hooks phase table start = invoked :=
        invokedHooks_congr sameOwn sameFields
      exact (fire_eq_invokeAll noLiteral found rfl picked).trans fired.symm

/-- The first hook of a table adds a condition, whose field is hooked as well, and the first hook of
a field removes all conditions; still both conditions on this field and the added one count. -/
theorem fire_invokes_registered_of_rewriting_hooks :
    let drop (parts : List Part) := parts.filter fun part => part.condition?.isNone
    let add (parts : List Part) :=
      parts ++ [.ofClause (.condition ⟨"name", .equal, "\"n\"", false⟩)]
    let register (phase : Phase) (key : String) (hook : Hook) : RegistryStep :=
      .change (.registerHook phase key hook)
    let steps := [register .beforeSelect "users.name" (.report "name"),
      register .afterSelect "users" (.report "after"), .define (.draft "users" [.uuid "id"]),
      register .beforeSelect "users" (.amend add), register .beforeSelect "users.age" (.amend drop),
      register .beforeSelect "orders" (.report "orders"),
      register .beforeSelect "users" (.report "users"),
      register .beforeSelect "users.age" (.report "age")]
    let age := Part.ofClause (.condition ⟨"age", .equal, "3", false⟩)
    let selection := [age, .ofClause (.source "users" none), .ofClause (.projection ["*"]), age]
    let firing := (Registry.empty.afterSteps steps).fire ⟨Nat.repr⟩ ⟨selection, none⟩
    statementPhase? selection = some (.beforeSelect, "users") ∧ firing.phase = some .beforeSelect ∧
      firing.statement.parts = [.ofClause (.source "users" none), .ofClause (.projection ["*"])] ∧
      firing.notices.filterMap Notice.hookLabel? = ["users", "age", "age", "name"] := by
  intro drop add register steps age selection firing
  have found : statementPhase? selection = some (.beforeSelect, "users") := by decide +kernel
  rcases (fire_invokes_registered .empty steps ⟨Nat.repr⟩ ⟨selection, none⟩).2 .beforeSelect "users"
    rfl found with ⟨fired, _, reports, _⟩
  refine ⟨found, congrArg Firing.phase fired, ?_, reports.trans ?_⟩
  · rw [show firing.statement.parts = _ from congrArg (·.statement.parts) fired]
    decide +kernel
  · decide +kernel

end Registry

end RankedSql
