import FirstSeen.Decimal.Double

/-!
The values of a TOML document. A table keeps its entries in the order in which they came and
remembers how it came about, since that decides whether a later line may still add to it: written in
braces it is closed; with a header of its own it is explicit; as the parent of a header it is
implicit; and a key with dots makes dotted tables. An array of tables, made by headers in double
brackets, is kept apart from an array of values.
-/
namespace FirstSeen.Toml

structure Date where
  year : Nat
  month : Nat
  day : Nat
  deriving DecidableEq

structure Time where
  hour : Nat
  minute : Nat
  second : Nat
  fraction : List Char
  deriving DecidableEq

/-- A date, a time, or both; with both there may be a distance from universal time in minutes. -/
structure Moment where
  date : Option Date
  time : Option Time
  offset : Option Int
  deriving DecidableEq

inductive Form where
  | closed
  | explicit
  | implicit
  | dotted
  deriving DecidableEq

inductive Value where
  | text (s : String)
  | integer (n : Int)
  | float (x : Decimal.Double)
  | boolean (b : Bool)
  | moment (m : Moment)
  | array (items : List Value)
  | table (form : Form) (entries : List (String × Value))
  | tables (elements : List (List (String × Value)))

abbrev Entries := List (String × Value)

end FirstSeen.Toml
