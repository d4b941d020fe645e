import DataSource.Table

/-!
The settings of a PostgreSQL connection. They are a table of names and values; a few names have a
meaning here, and the database has a second name that is never kept.
-/
namespace DataSource.Postgres

/-- The host or the directory of its socket, or several of them. -/
def hostName : Text := "host".toList

/-- The address of the host, or several of them. -/
def hostAddressName : Text := "hostaddr".toList

/-- The port, or several of them. -/
def portName : Text := "port".toList

/-- The user on whose behalf to connect. -/
def userName : Text := "user".toList

/-- The password of the user. -/
def passwordName : Text := "password".toList

/-- The database. -/
def databaseName : Text := "database".toList

/-- The second name of the database. -/
def databaseAlias : Text := "dbname".toList

/-- The name under which a setting is kept (`_KEY_ALIASES`). -/
def canonicalName (name : Text) : Text :=
  if name = databaseAlias then databaseName else name

/-- The port of a connection that names none (`DEFAULT_PORT`). -/
def defaultPort : Text := "5432".toList

end DataSource.Postgres
