import RankedSql.Guard.QuoteScan
import RankedSql.Guard.Signature

/-!
# The guard

The check that every statement passes before it reaches the engine: no semicolon outside literals,
then no injection signature. A destructive statement on its own is no reason to refuse it.
-/

namespace RankedSql

/-- Why the guard refuses a statement. -/
inductive Rejection where
  /-- A semicolon stands outside literals, at a byte position. -/
  | chained (position : Nat)
  /-- An injection signature occurs. -/
  | suspect (signature : Signature)
  deriving DecidableEq

/-- The wording of a reason. -/
def Rejection.message : Rejection → String
  | .chained position => "semicolon found at offset " ++ position.repr
  | .suspect signature => signature.name ++ " pattern '" ++ signature.pattern ++ "' found"

namespace Guard

/-- The first reason to refuse a statement, if there is one. -/
def inspect? (sql : String) : Option Rejection :=
  match openSemicolon? sql with
  | some position => some (.chained position)
  | none => (Signature.all.find? fun signature => signature.occurs sql.toList).map .suspect

/-- Whether the guard finds nothing to object to. -/
def isSafe (sql : String) : Bool := (inspect? sql).isNone

end Guard

end RankedSql
