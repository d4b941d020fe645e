import DataSource.Dialect
import DataSource.Mysql.Workspace
import DataSource.Proofs.Mysql.RoundTrip
import DataSource.Proofs.Mysql.Secrecy
import DataSource.Proofs.Postgres.Disclosure
import DataSource.Proofs.Postgres.Url.RoundTrip
import DataSource.Proofs.Mysql.Invariant
import DataSource.Proofs.Postgres.Filling
import DataSource.Proofs.LongNumbers
import DataSource.Proofs.Postgres.Peer
import DataSource.Proofs.Mysql.Reordering
import DataSource.Proofs.Postgres.OnePass
import DataSource.Proofs.Postgres.Url.Query
import DataSource.Proofs.Mysql.StandardPort
import DataSource.Proofs.Duration.Exactness
import DataSource.Proofs.Duration.Acceptance
import DataSource.Proofs.Duration.Range
import DataSource.Proofs.Postgres.Url.Conversion
import DataSource.Proofs.AddressSpellings
import DataSource.Proofs.AttributeSets
