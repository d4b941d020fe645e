import DataSource.Mysql.Attributes
import DataSource.Postgres.Attributes

/-!
The two dialects of connection strings, and the drivers that speak them. `describe` reports on a
connection string by the name of its driver. A driver that no dialect is known for is no error: its
database is of another kind, and nothing else is reported.
-/
namespace DataSource

/-- A family of databases, whose connection strings have a form of their own (`Dialect`). -/
inductive Dialect where
  | mysql
  | postgres
  deriving DecidableEq

namespace Dialect

/-- The name of a dialect. -/
def name : Dialect → Text
  | .mysql => "mysql".toList
  | .postgres => "postgres".toList

/-- The dialect of a name. -/
def ofName? (name : Text) : Option Dialect :=
  [mysql, postgres].find? fun dialect => dialect.name = name

/-- The dialect that a driver speaks (`Dialect.for_driver`). -/
def ofDriver? (driver : Text) : Option Dialect :=
  if driver = "pgx".toList then some .postgres else ofName? driver

/-- Reports on a connection string in a dialect (`Dialect.parse`). -/
def report (dialect : Dialect) (defaults : Postgres.Defaults) (source : Text) : Traced Report :=
  match dialect with
  | .mysql => Mysql.report source
  | .postgres => Postgres.report defaults source

end Dialect

/-- Reports on the connection string of a driver (`parse`). -/
def describe (driver : Text) (defaults : Postgres.Defaults) (source : Text) : Traced Report :=
  match Dialect.ofDriver? driver with
  | some dialect => dialect.report defaults source
  | none => do
    Traced.note [.unknownDriver driver]
    return ⟨[], { system := .other }⟩

end DataSource
