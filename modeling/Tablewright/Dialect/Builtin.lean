import Tablewright.Dialect.Spelling

/-! # The built-in dialects

The rules of MySQL, as its introspection spells types, and of TiDB, whose parser reports a few
spellings more. TiDB's own rules come last, so whatever MySQL knows keeps its kind. -/

namespace Tablewright.Dialect

/-- The two rules of an integer type: unsigned, and anything else. -/
def integerRules (word : String) (signed unsigned : ColumnKind) : List Rule :=
  [spelled word .unsigned unsigned, spelled word .free signed]

/-- The column types of MySQL. -/
def mysqlRules : List Rule :=
  [spelled "tinyint" .one .bool] ++
  integerRules "tinyint" .int8 .uint8 ++
  integerRules "smallint" .int16 .uint16 ++
  integerRules "mediumint" .int32 .uint32 ++
  integerRules "int" .int32 .uint32 ++
  integerRules "integer" .int32 .uint32 ++
  integerRules "bigint" .int64 .uint64 ++
  [spelled "float" .free .float32,
   spelled "double" .free .float64,
   spelled "char" .width .string,
   spelled "varchar" .width .string,
   spelled "datetime" .free .time,
   spelled "date" .free .time,
   spelled "timestamp" .free .time,
   spelled "time" .free .time,
   spelled "tinytext" .free .string,
   spelled "mediumtext" .free .string,
   spelled "longtext" .free .string,
   spelled "text" .free .string,
   spelled "tinyblob" .free .bytes,
   spelled "mediumblob" .free .bytes,
   spelled "longblob" .free .bytes,
   spelled "blob" .free .bytes,
   spelled "binary" .width .bytes,
   spelled "varbinary" .width .bytes,
   spelled "bit" .width .bytes,
   spelled "json" .free .json,
   spelled "enum" .members .enum,
   spelled "decimal" .precision .decimal,
   spelled "geometry" .free .string]

/-- The spellings that only TiDB reports. -/
def tidbExtraRules : List Rule :=
  [spelled "bool" .free .bool,
   spelled "boolean" .free .bool,
   spelled "decimal" .free .decimal,
   spelled "numeric" .free .decimal,
   spelled "real" .free .float64,
   spelled "year" .free .int16,
   spelled "set" .members .string,
   spelled "char" .free .string,
   spelled "varchar" .free .string,
   spelled "binary" .free .bytes,
   spelled "varbinary" .free .bytes,
   spelled "bit" .free .bytes]

/-- The column types of TiDB. -/
def tidbRules : List Rule :=
  mysqlRules ++ tidbExtraRules

/-- A mapper: the name of its dialect and the kind that it gives to a raw type, if it knows it. -/
structure Mapper where
  dialect : String
  kindOf : String → Except UnsupportedType ColumnKind

/-- The MySQL mapper. -/
def mysql : Mapper := ⟨"mysql", resolve mysqlRules⟩

/-- The TiDB mapper. -/
def tidb : Mapper := ⟨"tidb", resolve tidbRules⟩

end Tablewright.Dialect
