import PooledSql.Main
import PooledSql.Proofs.Agreement
import PooledSql.Proofs.Configuration.Opening
import PooledSql.Proofs.Configuration.Statements
import PooledSql.Proofs.Contexts.Failures
import PooledSql.Proofs.Contexts.Overlap
import PooledSql.Proofs.Contexts.Upkeep
import PooledSql.Proofs.Declarations
import PooledSql.Proofs.Identities
import PooledSql.Proofs.Imports
import PooledSql.Proofs.Negation
import PooledSql.Proofs.Pool.Demand
import PooledSql.Proofs.Pool.Stack
import PooledSql.Proofs.Rendering.Capture
import PooledSql.Proofs.Rendering.Numbering
import PooledSql.Proofs.Rendering.Quoting
import PooledSql.Proofs.Rendering.Recovery
import PooledSql.Proofs.Rendering.Scopes
import PooledSql.Proofs.Unambiguous
import PooledSql.Sql.Buffer
