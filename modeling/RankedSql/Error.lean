import RankedSql.Guard.Basic

/-!
# Errors

Why a statement or a table definition is not composed, and the wording of each cause.
-/

namespace RankedSql

/-- What is wrong with the reference of a foreign key. -/
inductive ReferenceProblem where
  | notAPath
  | undefinedTable (table : String)
  | undefinedColumn (table column : String)
  /-- A reason that the definition gives itself. -/
  | stated (reason : String)
  deriving DecidableEq

/-- The wording of what is wrong with a reference. -/
def ReferenceProblem.message : ReferenceProblem → String
  | .notAPath => "expected `table.column`"
  | .undefinedTable table => "table `" ++ table ++ "` is not defined"
  | .undefinedColumn table column => "table `" ++ table ++ "` has no column `" ++ column ++ "`"
  | .stated reason => reason

/-- What is wrong with a join. -/
inductive JoinProblem where
  | notAPath
  /-- Neither table is in the statement yet. -/
  | unanchored (target source : String)
  deriving DecidableEq

/-- The wording of what is wrong with a join. -/
def JoinProblem.message : JoinProblem → String
  | .notAPath => "expected a `table.column` reference"
  | .unanchored target source =>
      "no FROM fragment mentions `" ++ target ++ "` or `" ++ source ++ "`"

/-- A cause of failure. -/
inductive Error where
  | rejected (reason : Rejection) (sql : String)
  | badReference (reference : String) (problem : ReferenceProblem)
  | badJoin (reference : String) (problem : JoinProblem)
  deriving DecidableEq

namespace Error

/-- The wording of a cause of failure, with the statement or the reference it is about. -/
def message : Error → String
  | .rejected reason sql =>
      "malicious query detected: " ++ reason.message ++ " in query \"" ++ sql ++ "\""
  | .badReference reference problem =>
      "cannot reference `" ++ reference ++ "`: " ++ problem.message
  | .badJoin reference problem =>
      "cannot resolve join for `" ++ reference ++ "`: " ++ problem.message

/-- Whether the guard refused the statement. -/
def isRejection : Error → Bool
  | .rejected _ _ => true
  | _ => false

end Error

/-- Lets a statement pass that the guard accepts. -/
def Guard.validate (sql : String) : Except Error Unit :=
  match inspect? sql with
  | none => .ok ()
  | some reason => .error (.rejected reason sql)

theorem Guard.validate_eq_ok_iff {sql : String} : validate sql = .ok () ↔ isSafe sql = true := by
  unfold validate isSafe
  split <;> simp_all

end RankedSql
