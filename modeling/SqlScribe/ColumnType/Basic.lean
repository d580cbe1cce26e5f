/-!
# Column types

A column is declared with a type of the server or with a type of the host
program; every host type is stored as one type of the server.  Catalog codes
identify the server's types.

Main definitions:

- `SqlType`, `HostType` and `ColumnType` are the types, `ColumnType.stored` the
  type of the server that a column is stored as.
- `SqlType.code` and `SqlType.ofCode?` convert to and from catalog codes.

Main results:

- `SqlType.ofCode?_code` finds every type by its code.
-/

namespace SqlScribe

/-! ## Types of the server -/

/-- A type of the server. -/
inductive SqlType where
  | bigInt | binary | bit | char | date | dateTime | dateTime2 | dateTimeOffset | decimal | float
  | image | int | money | nChar | nText | nVarChar | real | smallDateTime | smallInt | smallMoney
  | variant | text | time | timestamp | tinyInt | uniqueIdentifier | varBinary | varChar | xml
deriving DecidableEq, Repr

namespace SqlType

/-- All types of the server. -/
def all : List SqlType :=
  [.bigInt, .binary, .bit, .char, .date, .dateTime, .dateTime2, .dateTimeOffset, .decimal, .float,
   .image, .int, .money, .nChar, .nText, .nVarChar, .real, .smallDateTime, .smallInt, .smallMoney,
   .variant, .text, .time, .timestamp, .tinyInt, .uniqueIdentifier, .varBinary, .varChar, .xml]

/-- The name in definitions. -/
def name : SqlType → String
  | .bigInt => "bigint"
  | .binary => "binary"
  | .bit => "bit"
  | .char => "char"
  | .date => "date"
  | .dateTime => "datetime"
  | .dateTime2 => "datetime2"
  | .dateTimeOffset => "datetimeoffset"
  | .decimal => "decimal"
  | .float => "float"
  | .image => "image"
  | .int => "int"
  | .money => "money"
  | .nChar => "nchar"
  | .nText => "ntext"
  | .nVarChar => "nvarchar"
  | .real => "real"
  | .smallDateTime => "smalldatetime"
  | .smallInt => "smallint"
  | .smallMoney => "smallmoney"
  | .variant => "sql_variant"
  | .text => "text"
  | .time => "time"
  | .timestamp => "timestamp"
  | .tinyInt => "tinyint"
  | .uniqueIdentifier => "uniqueidentifier"
  | .varBinary => "varbinary"
  | .varChar => "varchar"
  | .xml => "xml"

/-- The name in documents. -/
def documentName : SqlType → String
  | .bigInt => "BigInt"
  | .binary => "Binary"
  | .bit => "Bit"
  | .char => "Char"
  | .date => "Date"
  | .dateTime => "DateTime"
  | .dateTime2 => "DateTime2"
  | .dateTimeOffset => "DateTimeOffset"
  | .decimal => "Decimal"
  | .float => "Float"
  | .image => "Image"
  | .int => "Int"
  | .money => "Money"
  | .nChar => "NChar"
  | .nText => "NText"
  | .nVarChar => "NVarChar"
  | .real => "Real"
  | .smallDateTime => "SmallDateTime"
  | .smallInt => "SmallInt"
  | .smallMoney => "SmallMoney"
  | .variant => "Variant"
  | .text => "Text"
  | .time => "Time"
  | .timestamp => "Timestamp"
  | .tinyInt => "TinyInt"
  | .uniqueIdentifier => "UniqueIdentifier"
  | .varBinary => "VarBinary"
  | .varChar => "VarChar"
  | .xml => "Xml"

/-- The code in the catalog. -/
def code : SqlType → Int
  | .image => 34
  | .text => 35
  | .uniqueIdentifier => 36
  | .date => 40
  | .time => 41
  | .dateTime2 => 42
  | .dateTimeOffset => 43
  | .tinyInt => 48
  | .smallInt => 52
  | .int => 56
  | .smallDateTime => 58
  | .real => 59
  | .money => 60
  | .dateTime => 61
  | .float => 62
  | .variant => 98
  | .nText => 99
  | .bit => 104
  | .decimal => 106
  | .smallMoney => 122
  | .bigInt => 127
  | .varBinary => 165
  | .varChar => 167
  | .binary => 173
  | .char => 175
  | .timestamp => 189
  | .nVarChar => 231
  | .nChar => 239
  | .xml => 241

/-- The code of the numeric type, which is stored as decimal. -/
def numericCode : Int := 108

/-- The type with a code in the catalog. -/
def ofCode? (code : Int) : Option SqlType :=
  if code = numericCode then some .decimal else all.find? (·.code = code)

/-- Every type is found by its code. -/
@[simp] theorem ofCode?_code (type : SqlType) : ofCode? type.code = some type := by
  cases type <;> decide

/-- The type with a name in documents. -/
def ofDocumentName? (name : String) : Option SqlType := all.find? (·.documentName = name)

/-- Every type is found by its name in documents. -/
@[simp] theorem ofDocumentName?_documentName (type : SqlType) :
    ofDocumentName? type.documentName = some type := by
  cases type <;> decide

/-! ## Classes of types -/

/-- Whole numbers, which alone can be an identity. -/
def isInteger : SqlType → Bool
  | .tinyInt | .smallInt | .int | .bigInt => true
  | _ => false

/-- Types that hold a date. -/
def isTemporal : SqlType → Bool
  | .date | .dateTime | .dateTime2 | .dateTimeOffset | .smallDateTime => true
  | _ => false

/-- Types that are declared with a length. -/
def hasLength : SqlType → Bool
  | .binary | .char | .nChar | .nVarChar | .varBinary | .varChar => true
  | _ => false

/-- Types whose values take the room they need. -/
def isVariableWidth : SqlType → Bool
  | .nVarChar | .varBinary | .varChar => true
  | _ => false

/-- The greatest length that a declaration can give by number. -/
def greatestLength : SqlType → UInt32
  | .nChar | .nVarChar => 4000
  | _ => 8000

end SqlType

/-! ## Types of the host program -/

/-- A type of the host program. -/
inductive HostType where
  | guid | string | bool | byte | int16 | int32 | int64 | single | double | decimal | dateTime
  | byteArray
deriving DecidableEq, Repr

namespace HostType

/-- All types of the host program. -/
def all : List HostType :=
  [.guid, .string, .bool, .byte, .int16, .int32, .int64, .single, .double, .decimal, .dateTime,
   .byteArray]

/-- The type of the server that stores a host type. -/
def stored : HostType → SqlType
  | .guid => .uniqueIdentifier
  | .string => .nVarChar
  | .bool => .bit
  | .byte => .tinyInt
  | .int16 => .smallInt
  | .int32 => .int
  | .int64 => .bigInt
  | .single => .real
  | .double => .float
  | .decimal => .decimal
  | .dateTime => .dateTime
  | .byteArray => .varBinary

/-- The name in documents. -/
def documentName : HostType → String
  | .guid => "Guid"
  | .string => "String"
  | .bool => "Bool"
  | .byte => "Byte"
  | .int16 => "Int16"
  | .int32 => "Int32"
  | .int64 => "Int64"
  | .single => "Single"
  | .double => "Double"
  | .decimal => "Decimal"
  | .dateTime => "DateTime"
  | .byteArray => "ByteArray"

/-- The type with a name in documents. -/
def ofDocumentName? (name : String) : Option HostType := all.find? (·.documentName = name)

/-- Every type is found by its name in documents. -/
@[simp] theorem ofDocumentName?_documentName (type : HostType) :
    ofDocumentName? type.documentName = some type := by
  cases type <;> decide

end HostType

/-! ## Declared types -/

/-- The type that a column is declared with. -/
inductive ColumnType where
  | host (type : HostType)
  | sql (type : SqlType)
deriving DecidableEq, Repr

namespace ColumnType

/-- The type of the server that a column is stored as. -/
def stored : ColumnType → SqlType
  | .host type => type.stored
  | .sql type => type

/-- The form in messages. -/
def message : ColumnType → String
  | .host type => "Clr(" ++ type.documentName ++ ")"
  | .sql type => "Sql(" ++ type.documentName ++ ")"

end ColumnType

/-! ## Generators -/

/-- A function of the server that supplies a default. -/
inductive Generator where
  | now
  | newId
  | newSequentialId
deriving DecidableEq, Repr

namespace Generator

/-- All generators. -/
def all : List Generator := [.now, .newId, .newSequentialId]

/-- The call of the function. -/
def sql : Generator → String
  | .now => "GETDATE()"
  | .newId => "NEWID()"
  | .newSequentialId => "NEWSEQUENTIALID()"

/-- The definition that the catalog stores for a default. -/
def catalogDefinition (generator : Generator) : String := "(" ++ generator.sql ++ ")"

/-- The name in documents. -/
def documentName : Generator → String
  | .now => "Now"
  | .newId => "NewId"
  | .newSequentialId => "NewSequentialId"

/-- The generator with a name in documents. -/
def ofDocumentName? (name : String) : Option Generator := all.find? (·.documentName = name)

/-- Every generator is found by its name in documents. -/
@[simp] theorem ofDocumentName?_documentName (generator : Generator) :
    ofDocumentName? generator.documentName = some generator := by
  cases generator <;> decide

end Generator

end SqlScribe
