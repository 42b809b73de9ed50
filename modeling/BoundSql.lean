import BoundSql.Builder
import BoundSql.Edit.Script
import BoundSql.Statement.Equality
import BoundSql.Draft.Basic
import BoundSql.Draft.Clause
import BoundSql.Draft.Select
import BoundSql.Draft.Statement
import BoundSql.Proofs.Draft.Piecewise
import BoundSql.Proofs.Draft.Writing
import BoundSql.Proofs.Draft.Clauses
import BoundSql.Proofs.Draft.Statements
import BoundSql.Proofs.Giving
import BoundSql.Proofs.Masking
import BoundSql.Proofs.Meaning.Condition
import BoundSql.Proofs.Meaning.Select
import BoundSql.Proofs.Placeholder.Inlining
import BoundSql.Proofs.WellFormed
import BoundSql.Proofs.Placeholder.Renumbering
import BoundSql.Statement.Mention
import BoundSql.Text.Regions
import BoundSql.Proofs.Mention.Basic
import BoundSql.Proofs.Mention.Clause
import BoundSql.Proofs.Dialects
import BoundSql.Proofs.Mention.Quoting
import BoundSql.Proofs.Failure.Script
import BoundSql.Proofs.Context.Script
import BoundSql.Proofs.Joins.Distinct
import BoundSql.Proofs.Layout.Regions
import BoundSql.Proofs.Placeholder.Session
import BoundSql.Proofs.Joins.Hoisted
import BoundSql.Proofs.Meaning.EmptyList
import BoundSql.Proofs.Comments.Script
import BoundSql.Proofs.Qualifier
import BoundSql.Proofs.Silence
import BoundSql.Proofs.Layout.Stable
import BoundSql.Proofs.Traversal
import BoundSql.Proofs.ClauseOrder
import BoundSql.Proofs.Assignments.Run
import BoundSql.Proofs.Joins.Registration
import BoundSql.Proofs.Joins.Reports
import BoundSql.Proofs.Truncation
import BoundSql.Proofs.Unquoting
import BoundSql.Proofs.Wildcard
