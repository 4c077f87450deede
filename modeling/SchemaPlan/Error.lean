import SchemaPlan.Sql.Name

/-!
# What can go wrong

Every failure of the library, by its cause.  A failure of a definition or of an upgrade belongs to
an object, so its cause stands apart from the object it is found in; the other failures carry all
there is to say about them.

`SchemaError.message` is the only place where failures are worded.
-/

namespace SchemaPlan

/-- The things a definition names and that must have names of their own. -/
inductive Named where
  | schema
  | table
  | sequence
  | type
  | view
  | column
  | trigger
  | index
  | constraint
deriving DecidableEq

/-- The word for a named thing. -/
def Named.word : Named → String
  | .schema => "schema"
  | .table => "table"
  | .sequence => "sequence"
  | .type => "type"
  | .view => "view"
  | .column => "column"
  | .trigger => "trigger"
  | .index => "index"
  | .constraint => "constraint"

/-- What is wrong with an object of a definition, or with two versions of it. -/
inductive DefinitionFault where
  | nameRequired (what : Named)
  | duplicateName (what : Named)
  | ambiguousOverload
  | triggerTableMissing (address : String)
  | noEvents
  | parentMissing (address : String)
  | typeAndForeignKey
  | typeOrForeignKeyRequired
  | neitherTypeNorForeignKey
  | emptyType
  | circularReference (through : String)
  | targetMissing (target : String)
  | keyColumnMissing (column : String)
  | noDimensions
  | clusterIndexMissing (index : String)
  | rowsWithoutKey
  | rowsColumnMissing
  | rowsOmitKey (column : String)
  | rowTooLong (row cells columns : Nat)
  | rowLacksKey (row : Nat) (column : String)
  | duplicateKey (identity : List String)
  | severalPrimaryKeys
  | alreadyContinued (previous next : String)
  | ambiguousRename (marker identity : String)
  | conflicting (part current other : String)
deriving DecidableEq

/-- A change between versions that no sequence of operations makes. -/
inductive UnsupportedFault where
  | inheritanceChanged (old new : Option String)
  | becomesSerial (old new : String)
deriving DecidableEq

/-- The version that an order of tables is given for. -/
inductive Side where
  | new
  | old
deriving DecidableEq

/-- What is wrong with an order of tables given from outside. -/
inductive OrderFault where
  | repeated (side : Side) (item : String)
  | unknown (side : Side) (item : String)
  | omitted (side : Side) (item : String)
deriving DecidableEq

/-- What is wrong with a pattern for paths. -/
inductive PatternFault where
  | wildcards
  | recursive
  | range
deriving DecidableEq

/-- What is wrong with the text of a definition, or with where it is looked for. -/
inductive ReadFault where
  /-- The text is no definition; reading it ended at this place. -/
  | malformed (line column : Nat)
  | inFile (path : String) (fault : ReadFault)
  | noSources
  | badPattern (position : Nat) (fault : PatternFault)
  | noFiles (pattern : String)
deriving DecidableEq

/-- What can be done with a file or a directory. -/
inductive FileAction where
  | read
  | write
  | create
deriving DecidableEq

/-- Why a file or a directory cannot be used. -/
inductive FileFault where
  | notFound
  | exists
  | notDirectory
  | isDirectory
  | denied
  | nameTooLong
  | zeroCharacter
  | notText
  | other (reason : String)
deriving DecidableEq

/-- A failure. -/
inductive SchemaError where
  | parse (fault : ReadFault)
  | file (action : FileAction) (path : String) (fault : FileFault)
  | definition (object : String) (fault : DefinitionFault)
  | unsupported (object : String) (fault : UnsupportedFault)
  | order (fault : OrderFault)
deriving DecidableEq

/-! ### Wording -/

/-- The text of a fault, to be read behind the object. -/
def DefinitionFault.message : DefinitionFault → String
  | .nameRequired what => what.word ++ " name is required"
  | .duplicateName what => "duplicate " ++ what.word ++ " name"
  | .ambiguousOverload => "ambiguous function overload: signature declared more than once"
  | .triggerTableMissing address => "trigger table " ++ address ++ " does not exist"
  | .noEvents => "trigger declares no events"
  | .parentMissing address => "inherited table " ++ address ++ " does not exist"
  | .typeAndForeignKey => "a foreign-keyed column must not also declare a type"
  | .typeOrForeignKeyRequired => "column requires either a type or a foreign key"
  | .neitherTypeNorForeignKey => "column has neither a type nor a foreign key"
  | .emptyType => "column type is empty"
  | .circularReference through => "circular foreign-key type reference through " ++ through
  | .targetMissing target => "foreign key target " ++ target ++ " does not exist"
  | .keyColumnMissing column =>
    "primary key column " ++ column ++ " does not exist locally or via inheritance"
  | .noDimensions => "index declares no dimensions"
  | .clusterIndexMissing index => "cluster index " ++ index ++ " is not an index of this table"
  | .rowsWithoutKey => "static rows require a primary key"
  | .rowsColumnMissing => "rows reference a column the table does not have"
  | .rowsOmitKey column => "rows do not declare primary key column " ++ column
  | .rowTooLong row cells columns =>
    "row " ++ toString row ++ " has " ++ toString cells ++ " cells but only " ++
      toString columns ++ " columns are declared"
  | .rowLacksKey row column =>
    "row " ++ toString row ++ " has no value for primary key column " ++ column
  | .duplicateKey identity =>
    "duplicate primary key (" ++ String.intercalate ", " identity ++ ") in rows"
  | .severalPrimaryKeys => "more than one primary key declared"
  | .alreadyContinued previous next =>
    previous ++ " is already the previous version of " ++ next
  | .ambiguousRename marker identity =>
    "ambiguous rename: both " ++ marker ++ " and " ++ identity ++
      " exist in the previous version"
  | .conflicting part current other =>
    "conflicting " ++ part ++ ": " ++ current ++ " and " ++ other

/-- The text of a change that cannot be made. -/
def UnsupportedFault.message : UnsupportedFault → String
  | .inheritanceChanged old new =>
    "inheritance changed from " ++ old.getD "nothing" ++ " to " ++ new.getD "nothing"
  | .becomesSerial old new =>
    "cannot alter a " ++ old ++ " column to auto-incrementing " ++ new

/-- The word for a side. -/
def Side.word : Side → String
  | .new => "new"
  | .old => "old"

/-- The text of a fault in an order. -/
def OrderFault.message : OrderFault → String
  | .repeated side item => side.word ++ " order lists " ++ item ++ " more than once"
  | .unknown side item =>
    side.word ++ " order references " ++ item ++ ", which exists in neither version"
  | .omitted side item => side.word ++ " order does not mention " ++ item

/-- The text of a fault in a pattern. -/
def PatternFault.message : PatternFault → String
  | .wildcards => "wildcards are either regular \x60*\x60 or recursive \x60**\x60"
  | .recursive => "recursive wildcards must form a single path component"
  | .range => "invalid range pattern"

/-- The text of a fault in a definition; a fault in a file names the file first. -/
def ReadFault.message : ReadFault → String
  | .malformed line column =>
    "line " ++ toString line ++ " column " ++ toString column ++ ": not a definition at line " ++
      toString line ++ " column " ++ toString column
  | .inFile path fault => path ++ ": Parse error: " ++ fault.message
  | .noSources => "No definition sources given"
  | .badPattern position fault =>
    "Invalid glob pattern: Pattern syntax error near position " ++ toString position ++ ": " ++
      fault.message
  | .noFiles pattern => "No definition files found matching pattern: " ++ pattern

/-- The word for an action. -/
def FileAction.word : FileAction → String
  | .read => "read"
  | .write => "write"
  | .create => "create"

/-- The text of a fault of a file, with the number that the system has for it. -/
def FileFault.message : FileFault → String
  | .notFound => "No such file or directory (os error 2)"
  | .exists => "File exists (os error 17)"
  | .notDirectory => "Not a directory (os error 20)"
  | .isDirectory => "Is a directory (os error 21)"
  | .denied => "Permission denied (os error 13)"
  | .nameTooLong => "File name too long (os error 36)"
  | .zeroCharacter => "file name contained an unexpected NUL byte"
  | .notText => "stream did not contain valid UTF-8"
  | .other reason => reason

/-- The text of a failure. -/
def SchemaError.message : SchemaError → String
  | .parse fault => "Parse error: " ++ fault.message
  | .file action path fault =>
    "I/O error: Failed to " ++ action.word ++ " " ++ path ++ ": " ++ fault.message
  | .definition object fault => "Definition error in " ++ object ++ ": " ++ fault.message
  | .unsupported object fault => "Unsupported change to " ++ object ++ ": " ++ fault.message
  | .order fault => "Invalid dependency order: " ++ fault.message

end SchemaPlan
