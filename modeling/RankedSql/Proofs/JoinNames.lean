import RankedSql.Proofs.CallOrder
import RankedSql.Proofs.JoinFrame

/-!
# Names of tables in joins

A reference may name its table by any of its aliases or by the table's own name. If each alias
belongs to one table and a table's own name is no alias, all these names stand for the table
(`standsFor_of_nameOf`), and a reference gives the same side under each of them. So calls that
differ in such names only compose the same statement, and fail alike (`outcomes_eq_of_renamed`).

A name is what stands before the first point. Hence a name that holds a point itself cannot take
the place of another one: the reference is read differently then (`outcomes_ne_of_point_in_name`).
-/

namespace RankedSql

/-! ## Names -/

/-- Each alias belongs to one table only. -/
def Unambiguous (aliases : List (String × String)) : Prop :=
  ∀ entry ∈ aliases, ∀ other ∈ aliases, entry.2 = other.2 → entry.1 = other.1

instance (aliases : List (String × String)) : Decidable (Unambiguous aliases) :=
  List.decidableBAll _ aliases

/-- A name of a table: one of its aliases, or its own name unless that is an alias. -/
inductive NameOf (aliases : List (String × String)) (table : String) : String → Prop where
  | listed {name : String} (member : (table, name) ∈ aliases) : NameOf aliases table name
  | own (noAlias : ∀ entry ∈ aliases, entry.2 ≠ table) : NameOf aliases table table

/-- References that differ at most in the names, free of points, that they give to a table. -/
inductive SameReference (aliases : List (String × String)) : String → String → Prop where
  | refl (reference : String) : SameReference aliases reference reference
  | renamed {table name other : String} (column : String) (names : NameOf aliases table name)
      (namesOther : NameOf aliases table other) (noPoint : '.' ∉ name.toList)
      (noPointOther : '.' ∉ other.toList) :
      SameReference aliases (name ++ "." ++ column) (other ++ "." ++ column)

/-- Calls that differ at most in the names that the references of a join with the given aliases give
to their tables. -/
inductive Call.Renamed (aliases : List (String × String)) : Call → Call → Prop where
  | same {call : Call} (noJoin : call.isJoin = false) : Renamed aliases call call
  | join {target otherTarget source otherSource : String} {spec : JoinSpec}
      (uses : spec.aliases = aliases) (sameTarget : SameReference aliases target otherTarget)
      (sameSource : SameReference aliases source otherSource) :
      Renamed aliases (.join target source spec) (.join otherTarget otherSource spec)

section

variable {aliases : List (String × String)}

/-- Where aliases are unambiguous, every name of a table stands for it. -/
theorem standsFor_of_nameOf (unambiguous : Unambiguous aliases) {table name : String}
    (names : NameOf aliases table name) : StandsFor aliases name table := by
  cases names with
  | listed member =>
      have found : (aliases.find? fun entry => entry.2 == name).isSome := by
        rw [List.find?_isSome]
        exact ⟨(table, name), member, by simp⟩
      rcases Option.isSome_iff_exists.1 found with ⟨⟨firstTable, firstName⟩, first⟩
      rcases List.find?_eq_some_iff_append.1 first with ⟨same, before, after, aliases_eq, earlier⟩
      have firstMember : (firstTable, firstName) ∈ aliases := List.mem_of_find?_eq_some first
      have sameName : firstName = name := by simpa using same
      have sameTable : firstTable = table := unambiguous _ firstMember _ member sameName
      subst sameName sameTable
      apply StandsFor.listed before after aliases_eq
      intro entry entryMember
      simpa using earlier entry entryMember
  | own noAlias => exact .unlisted noAlias

theorem resolve_eq_of_sameReference {spec : JoinSpec} (unambiguous : Unambiguous spec.aliases)
    {reference other : String} (same : SameReference spec.aliases reference other) :
    JoinSide.resolve spec reference = JoinSide.resolve spec other := by
  cases same with
  | refl => rfl
  | renamed column names namesOther noPoint noPointOther =>
      have stands := standsFor_of_nameOf unambiguous names
      have standsOther := standsFor_of_nameOf unambiguous namesOther
      rw [JoinSide.resolve_eq_ok_iff.2 (.path column noPoint stands),
        JoinSide.resolve_eq_ok_iff.2 (.path column noPointOther standsOther)]

/-! ## Calls -/

variable {call other : Call} {calls others : List Call}

/-- A call does the same, and fails with the same error, under other names. -/
theorem Call.Renamed.perform_eq (renamed : call.Renamed aliases other)
    (unambiguous : Unambiguous aliases) (registry : Registry) (statement : Statement) :
    statement.perform registry call = statement.perform registry other := by
  cases renamed with
  | same noJoin => rfl
  | join uses sameTarget sameSource =>
      subst uses
      simp only [Statement.perform, Statement.join,
        resolve_eq_of_sameReference unambiguous sameTarget,
        resolve_eq_of_sameReference unambiguous sameSource]

theorem Call.Renamed.afterEdit_eq (renamed : call.Renamed aliases other)
    (unambiguous : Unambiguous aliases) (registry : Registry) (statement : Statement) :
    statement.afterEdit registry (.call call) = statement.afterEdit registry (.call other) := by
  simp only [Statement.afterEdit, Statement.edit, renamed.perform_eq unambiguous]

theorem afterCalls_eq_of_renamed (unambiguous : Unambiguous aliases)
    (renamed : List.Forall₂ (Call.Renamed aliases) calls others) (registry : Registry)
    (statement : Statement) :
    statement.afterCalls registry calls = statement.afterCalls registry others := by
  induction renamed generalizing statement with
  | nil => rfl
  | cons first _ ih =>
      rw [Statement.afterCalls_cons, Statement.afterCalls_cons,
        first.afterEdit_eq unambiguous registry statement, ih]

theorem failures_eq_of_renamed (unambiguous : Unambiguous aliases)
    (renamed : List.Forall₂ (Call.Renamed aliases) calls others) (registry : Registry)
    (statement : Statement) :
    (outcomes registry statement calls).map Prod.snd =
      (outcomes registry statement others).map Prod.snd := by
  induction renamed generalizing statement with
  | nil => rfl
  | cons first _ ih =>
      simp only [outcomes, List.map_cons, Statement.failure?,
        first.perform_eq unambiguous registry statement,
        first.afterEdit_eq unambiguous registry statement, ih]

/-- Names of a table are interchangeable, as long as they hold no point. Let each alias belong to
one table, and let the references of some joins name their tables by other names of these tables:
aliases in place of a table's own name, which must be no alias itself, the own name in place of an
alias, or one alias in place of another. Then every call still succeeds, or fails with the very same
error, and after every call the parts and the text of the statement are the same. -/
theorem outcomes_eq_of_renamed (unambiguous : Unambiguous aliases)
    (renamed : List.Forall₂ (Call.Renamed aliases) calls others) (registry : Registry)
    (statement : Statement) :
    (outcomes registry statement calls).map Prod.snd =
        (outcomes registry statement others).map Prod.snd ∧
      ∀ count,
        let composed := statement.afterCalls registry (calls.take count)
        let composedOther := statement.afterCalls registry (others.take count)
        composed.parts = composedOther.parts ∧ composed.render = composedOther.render := by
  refine ⟨failures_eq_of_renamed unambiguous renamed registry statement, ?_⟩
  intro count composed composedOther
  have taken := List.forall₂_take count renamed
  have same : composed = composedOther :=
    afterCalls_eq_of_renamed unambiguous taken registry statement
  exact ⟨congrArg Statement.parts same, congrArg Statement.render same⟩

end

/-- A chain of joins under the tables' own names and under aliases, of which one table has two. The
last join fails, and it names the same tables in the error. -/
theorem outcomes_eq_of_renamed_chain :
    let aliases := [("users", "u"), ("orders", "o"), ("users", "person")]
    let calls := [Call.source "users", .join "orders.user_id" "users.id" { aliases },
      .join "items.order_id" "o.id" { kind := .left, aliases }, .join "tags.id" "x.id" { aliases }]
    let others := [Call.source "users", .join "o.user_id" "person.id" { aliases },
      .join "items.order_id" "orders.id" { kind := .left, aliases },
      .join "tags.id" "x.id" { aliases }]
    let text := "FROM users u INNER JOIN orders o ON o.user_id = u.id " ++
      "LEFT JOIN items ON items.order_id = o.id"
    Unambiguous aliases ∧ List.Forall₂ (Call.Renamed aliases) calls others ∧
      (outcomes .empty .empty calls).map Prod.snd =
        [none, none, none, some (.badJoin "tags.id" (.unanchored "tags" "x"))] ∧
      (outcomes .empty .empty others).map Prod.snd =
        [none, none, none, some (.badJoin "tags.id" (.unanchored "tags" "x"))] ∧
      (Statement.empty.afterCalls .empty calls).render = text ∧
      (Statement.empty.afterCalls .empty others).render = text := by
  intro aliases calls others text
  have unambiguous : Unambiguous aliases := by decide
  have ordersName : NameOf aliases "orders" "orders" := .own (by decide)
  have ordersAlias : NameOf aliases "orders" "o" := .listed (by decide)
  have usersName : NameOf aliases "users" "users" := .own (by decide)
  have usersAlias : NameOf aliases "users" "person" := .listed (by decide)
  have target : SameReference aliases "orders.user_id" "o.user_id" :=
    .renamed "user_id" ordersName ordersAlias (by decide) (by decide)
  have source : SameReference aliases "users.id" "person.id" :=
    .renamed "id" usersName usersAlias (by decide) (by decide)
  have sourceOfItems : SameReference aliases "o.id" "orders.id" :=
    .renamed "id" ordersAlias ordersName (by decide) (by decide)
  have renamed : List.Forall₂ (Call.Renamed aliases) calls others :=
    .cons (.same rfl) (.cons (.join rfl target source)
      (.cons (.join rfl (.refl _) sourceOfItems) (.cons (.join rfl (.refl _) (.refl _)) .nil)))
  have failures : (outcomes .empty .empty calls).map Prod.snd =
      [none, none, none, some (.badJoin "tags.id" (.unanchored "tags" "x"))] := by
    decide +kernel
  have rendered : (Statement.empty.afterCalls .empty calls).render = text := by decide +kernel
  rcases outcomes_eq_of_renamed unambiguous renamed .empty .empty with ⟨sameFailures, samePoints⟩
  have sameText := (samePoints 4).2
  exact ⟨unambiguous, renamed, failures, sameFailures ▸ failures, rendered,
    sameText ▸ rendered⟩

/-- A table's own name that holds a point cannot take the place of an alias: the table is then
looked for under the front of its name, where it is not. -/
theorem outcomes_ne_of_point_in_name :
    let aliases := [("main.users", "u")]
    let calls := [Call.source "main.users", .join "orders.user_id" ("u" ++ "." ++ "id") { aliases }]
    let others :=
      [Call.source "main.users", .join "orders.user_id" ("main.users" ++ "." ++ "id") { aliases }]
    Unambiguous aliases ∧ NameOf aliases "main.users" "u" ∧
      NameOf aliases "main.users" "main.users" ∧
      (∀ entry ∈ aliases, entry.2 ≠ "main.users" ∧ entry.2 ≠ "orders") ∧
      (outcomes .empty .empty calls).map Prod.snd = [none, none] ∧
      (outcomes .empty .empty others).map Prod.snd =
        [none, some (.badJoin "orders.user_id" (.unanchored "orders" "main"))] := by
  intro aliases calls others
  refine ⟨by decide, .listed (by decide), .own (by decide), by decide, ?_, ?_⟩
  · decide +kernel
  · decide +kernel

end RankedSql
