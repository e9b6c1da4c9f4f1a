import RankedSql.ColumnType
import RankedSql.Decimal.Shortest
import RankedSql.Instant
import RankedSql.Text.Quoted

/-!
# Values

The values that a statement carries and their three written forms: in a condition
(`Value.inline`), for storage in a column (`Value.stored`), and as the default of a column
(`Value.defaultOperand`).
-/

namespace RankedSql

/-- A value in a condition, a row or a default. -/
inductive Value where
  | null
  | bool (value : Bool)
  | int (value : Int)
  | float (value : Float)
  | text (value : String)
  | instant (value : Instant)

namespace Value

/-- A number of single precision, widened. -/
def ofFloat32 (value : Float32) : Value := .float value.toFloat

/-- An absent value counts as NULL. -/
def ofOption : Option Value → Value
  | some value => value
  | none => .null

/-- The text of a finite number. Infinities and NaN have no literal. -/
def floatText? (value : Float) : Option String :=
  (Binary64.ofBits? value.toBits.toNat).map Binary64.text

/-- The value as a condition compares with it: texts and instants are double-quoted literals, and a
number without a literal is NULL. -/
def inline : Value → String
  | .null => "NULL"
  | .bool value => if value then "true" else "false"
  | .int value => value.repr
  | .float value => (floatText? value).getD "NULL"
  | .text value => Text.quoted '"' value
  | .instant value => Text.quoted '"' value.rfc3339

/-- The text of an instant for a column of the given type, or for an unknown column. -/
def instantText (instant : Instant) : Option ColumnType → String
  | some .date => instant.dateText
  | some .datetime | some .timestamp => instant.dateTimeText
  | _ => instant.rfc3339

/-- The value as a column of the given type stores it: truth values are 1 and 0, instants follow the
type, and all else is as in a condition. -/
def stored (value : Value) (type : Option ColumnType) : String :=
  match value with
  | .bool value => if value then "1" else "0"
  | .instant value => Text.quoted '"' (instantText value type)
  | other => other.inline

/-- The value as a bare expression. NULL and numbers without a literal have none. -/
def bareText? : Value → Option String
  | .null => none
  | .bool value => some (if value then "TRUE" else "FALSE")
  | .int value => some value.repr
  | .float value => floatText? value
  | .text value => some value
  | .instant value => some value.rfc3339

/-- The operand of `DEFAULT`: the bare expression, or a single-quoted literal of it. NULL is never
quoted. -/
def defaultOperand (value : Value) (asLiteral : Bool) : String :=
  match value.bareText? with
  | none => "NULL"
  | some bare => if asLiteral then Text.quoted '\'' bare else bare

end Value

end RankedSql
