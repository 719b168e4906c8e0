import SqlTyping.Collection
import SqlTyping.Facets
import SqlTyping.Text.Blank
import SqlTyping.Text.Words

/-!
# Built-in type names

The names every dialect knows. Most are one word; two are of five, and
carry their facets in the middle: `TIME(3) WITH LOCAL TIME ZONE`.

## Reading a name

A name is read word by word, in any case, with blanks or underscores
between the words. Besides its spelling a type answers to its aliases:
`INT` is `INTEGER`, `DEC` and `NUMERIC` are `DECIMAL`, `CHARACTER` is
`CHAR` and `CHARACTER VARYING` is `VARCHAR`. The words have to be all of
the spelling or alias and nothing more, so `TIME WITH` names nothing.
-/

namespace SqlTyping

/-- **The built-in type names**, in the order they sort. -/
inductive BuiltIn where
  /-- Truth values. -/
  | boolean
  /-- Integers of one byte. -/
  | tinyInt
  /-- Integers of two bytes. -/
  | smallInt
  /-- Integers of four bytes. -/
  | integer
  /-- Integers of eight bytes. -/
  | bigInt
  /-- Exact numbers of given precision and scale. -/
  | decimal
  /-- Approximate numbers of given precision. -/
  | float
  /-- Approximate numbers. -/
  | real
  /-- Approximate numbers of double precision. -/
  | double
  /-- Days. -/
  | date
  /-- Times of day. -/
  | time
  /-- Times of day in the time zone of the session. -/
  | timeWithLocalTimeZone
  /-- Points in time. -/
  | timestamp
  /-- Points in time in the time zone of the session. -/
  | timestampWithLocalTimeZone
  /-- Text of fixed length. -/
  | char
  /-- Text of bounded length. -/
  | varchar
  /-- Bytes of fixed length. -/
  | binary
  /-- Bytes of bounded length. -/
  | varbinary
  /-- The type of a bare `NULL`. -/
  | null
  /-- Any type. -/
  | any
  /-- Some array. -/
  | array
  /-- Some multiset. -/
  | multiset
  /-- Some row. -/
  | row
deriving DecidableEq, Ord

namespace BuiltIn

/-- All names, in the order they sort. -/
def all : List BuiltIn :=
  [boolean, tinyInt, smallInt, integer, bigInt, decimal, float, real, double,
   date, time, timeWithLocalTimeZone, timestamp, timestampWithLocalTimeZone,
   char, varchar, binary, varbinary, null, any, array, multiset, row]

/-- **How a name is spelled** in SQL. -/
def spelling : BuiltIn → String
  | boolean => "BOOLEAN"
  | tinyInt => "TINYINT"
  | smallInt => "SMALLINT"
  | integer => "INTEGER"
  | bigInt => "BIGINT"
  | decimal => "DECIMAL"
  | float => "FLOAT"
  | real => "REAL"
  | double => "DOUBLE"
  | date => "DATE"
  | time => "TIME"
  | timeWithLocalTimeZone => "TIME WITH LOCAL TIME ZONE"
  | timestamp => "TIMESTAMP"
  | timestampWithLocalTimeZone => "TIMESTAMP WITH LOCAL TIME ZONE"
  | char => "CHAR"
  | varchar => "VARCHAR"
  | binary => "BINARY"
  | varbinary => "VARBINARY"
  | null => "NULL"
  | any => "ANY"
  | array => "ARRAY"
  | multiset => "MULTISET"
  | row => "ROW"

/-- Further spellings that are read and never written. -/
def aliases : List (String × BuiltIn) :=
  [("INT", integer), ("DEC", decimal), ("NUMERIC", decimal),
   ("CHARACTER", char), ("CHARACTER VARYING", varchar)]

/-- **Everything a name can be read from**: the spellings, then the
aliases. -/
def vocabulary : List (String × BuiltIn) :=
  all.map (fun n => (n.spelling, n)) ++ aliases

/-- What can stand between two words of a name: blanks and underscores. -/
def isSeparator (c : Char) : Bool := c == '_' || isBlank c

/-- The words of an entry of the vocabulary, with blanks between them. -/
def entryWords (entry : String) : List (List Char) :=
  splits (· == ' ') entry.toList

/-- Whether a text has exactly the words of an entry, in whatever case. -/
def reads (s entry : String) : Bool :=
  (words isSeparator s.toList).map foldCase == (entryWords entry).map foldCase

/-- **The type a name is read as**, by the first entry of the vocabulary
with its words. -/
def ofText? (s : String) : Option BuiltIn :=
  (vocabulary.find? fun entry => reads s entry.1).map (·.2)

/-- Whether the type takes a precision. -/
def takesPrecision : BuiltIn → Bool
  | decimal | float | time | timeWithLocalTimeZone | timestamp
  | timestampWithLocalTimeZone | char | varchar | binary | varbinary => true
  | _ => false

/-- Whether the type takes a scale. -/
def takesScale : BuiltIn → Bool
  | decimal => true
  | _ => false

/-- Whether every facet given is one the type takes. -/
def admits (n : BuiltIn) (f : Facets) : Bool :=
  (f.precision.isNone || n.takesPrecision) && (f.scale.isNone || n.takesScale)

/-- Whether the spelling ends in `WITH LOCAL TIME ZONE`. -/
def hasLocalTimeZone : BuiltIn → Bool
  | timeWithLocalTimeZone | timestampWithLocalTimeZone => true
  | _ => false

/-- The collection a name stands for, if it stands for one. -/
def collection? : BuiltIn → Option Collection
  | array => some .array
  | multiset => some .multiset
  | _ => none

/-- Whether the name is a scalar type and not that of a constructor. -/
def isScalar : BuiltIn → Bool
  | array | multiset | row => false
  | _ => true

/-- The part of the spelling that facets follow. -/
def stem : BuiltIn → String
  | timeWithLocalTimeZone => "TIME"
  | timestampWithLocalTimeZone => "TIMESTAMP"
  | n => n.spelling

/-- The part of the spelling that follows facets. -/
def tail (n : BuiltIn) : Pieces :=
  if n.hasLocalTimeZone then [" WITH LOCAL TIME ZONE"] else []

/-- **How a type is written with its facets**, which come before a
`WITH LOCAL TIME ZONE`. -/
def pieces (n : BuiltIn) (f : Facets) : Pieces := n.stem :: f.pieces ++ n.tail

/-- The text of a type with its facets. -/
def text (n : BuiltIn) (f : Facets) : String := (n.pieces f).text

/-- Every name is listed. -/
theorem mem_all (n : BuiltIn) : n ∈ all := by cases n <;> decide

/-- Names are spelled differently. -/
theorem spelling_injective {m n : BuiltIn} (h : m.spelling = n.spelling) :
    m = n := by
  have key : ∀ m ∈ all, ∀ n ∈ all, m.spelling = n.spelling → m = n := by
    decide
  exact key m (mem_all m) n (mem_all n) h

/-- Without facets a type is written as it is spelled. -/
theorem text_none (n : BuiltIn) : n.text .none = n.spelling := by
  cases n <;> rfl

end BuiltIn

/-- The name that stands for a kind of collection. -/
def Collection.builtIn : Collection → BuiltIn
  | array => .array
  | multiset => .multiset

/-- A kind of collection has its keyword for a name. -/
@[simp] theorem Collection.spelling_builtIn (k : Collection) :
    k.builtIn.spelling = k.keyword := by
  cases k <;> rfl

/-- The name of a kind of collection stands for it. -/
@[simp] theorem Collection.collection?_builtIn (k : Collection) :
    k.builtIn.collection? = some k := by
  cases k <;> rfl

end SqlTyping
