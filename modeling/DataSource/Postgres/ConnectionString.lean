import DataSource.Postgres.Defaults

/-!
Connection strings of PostgreSQL in either form. The URL form is known by its scheme, any other
text is in keyword/value form. What the string leaves out comes from the defaults; only the empty
string stays without any. This is `parse_settings`.
-/
namespace DataSource.Postgres

/-- The beginnings by which the URL form is known (`_URL_PREFIXES`). -/
def urlSchemes : List Text :=
  ["postgres://".toList, "postgresql://".toList]

/-- Whether a connection string is in URL form. -/
def isUrl (source : Text) : Bool :=
  urlSchemes.any fun scheme => scheme.isPrefixOf source

/-- The settings of a URL, with a note for each parameter that is skipped. -/
def readUrl (source : Text) : Traced Table :=
  match Url.parse source with
  | .ok reading => ⟨.ok reading.settings, [], reading.skipped.map fun _ => .skippedParameter⟩
  | .error error => .ofExcept (.error (.url error))

/-- The settings of a text in keyword/value form. -/
def readKeywordValue (source : Text) : Traced Table :=
  .ofExcept ((KeywordValue.parse source).mapError .keywordValue)

/-- The settings that a connection string gives. -/
def readSettings (source : Text) : Traced Table :=
  if isUrl source then readUrl source else readKeywordValue source

/-- The settings of a connection string, defaults included (`parse_settings`). -/
def settings (defaults : Defaults) (source : Text) : Traced Table :=
  if source = [] then pure .empty
  else do
    defaults.apply (← readSettings source)

end DataSource.Postgres
