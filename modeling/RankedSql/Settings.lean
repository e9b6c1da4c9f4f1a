import RankedSql.Numeral

/-!
# Connection settings

How a database is reached: the address, the size of the pool, and whether a missing file is
created. Settings can be read from the values of two environment variables; a value that is unset,
or that is no text or no positive size, leaves the default.
-/

namespace RankedSql

/-- How to reach a database. -/
structure Settings where
  url : String
  maxConnections : UInt32
  createIfMissing : Bool
  deriving DecidableEq

namespace Settings

/-- One connection to a database in memory. -/
def default : Settings := ⟨"sqlite::memory:", 1, true⟩

/-- A variable as text; bytes that are no UTF-8 count as unset. -/
def variableText? (bytes : Option ByteArray) : Option String := bytes.bind String.fromUTF8?

/-- The pool size that a text gives. -/
def poolSize? (text : String) : Option UInt32 :=
  (Numeral.size? text.toList).bind fun size => if 0 < size then some size else none

/-- The settings that the variables for the address and for the pool size give. -/
def ofEnvironment (url poolSize : Option ByteArray) : Settings :=
  { default with
    url := (variableText? url).getD default.url
    maxConnections := ((variableText? poolSize).bind poolSize?).getD default.maxConnections }

/-- The settings with another address. -/
def withUrl (settings : Settings) (url : String) : Settings := { settings with url }

/-- The settings with another size of the pool. -/
def withMaxConnections (settings : Settings) (count : UInt32) : Settings :=
  { settings with maxConnections := count }

/-- The settings with another word on missing files. -/
def withCreateIfMissing (settings : Settings) (create : Bool) : Settings :=
  { settings with createIfMissing := create }

end Settings

end RankedSql
