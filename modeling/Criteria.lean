import Criteria.Proofs.Calendar.Spelling
import Criteria.Proofs.Complements
import Criteria.Proofs.Condition.Yaml
import Criteria.Proofs.Conjunction
import Criteria.Proofs.Engine.TimeZone
import Criteria.Proofs.LogFilter
import Criteria.Proofs.MatchKinds
import Criteria.Proofs.NormalForms
import Criteria.Proofs.NullChecks
import Criteria.Proofs.Number.Rounding
import Criteria.Proofs.Number.Shortest
import Criteria.Proofs.Number.Whole
import Criteria.Proofs.Offset.Canonical
import Criteria.Proofs.Record.Flattened
import Criteria.Proofs.Record.Integers
import Criteria.Proofs.Search.TextQueries
import Criteria.Proofs.Search.TimeRanges
import Criteria.Proofs.Sql.RelativeDays
import Criteria.Proofs.Sql.StoredTokens
import Criteria.Proofs.Sql.TimeTests
import Criteria.Proofs.Sql.WhereClause
import Criteria.Proofs.TokenSets
import Criteria.Proofs.Value.Joined
