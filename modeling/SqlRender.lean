import SqlRender.Blog.Posts
import SqlRender.Expr.Description
import SqlRender.Expr.Equality
import SqlRender.Log.Setup
import SqlRender.Render.Session
import SqlRender.Proofs.Render.Running
import SqlRender.Proofs.Render.Segments
import SqlRender.Proofs.Render.Waiting
import SqlRender.Proofs.Render.WriteBack
import SqlRender.Proofs.Database.BoundValues
import SqlRender.Proofs.Database.Capabilities
import SqlRender.Proofs.Database.Connection
import SqlRender.Proofs.Database.Filters
import SqlRender.Proofs.Database.FormatStyle
import SqlRender.Proofs.Database.JsonPaths
import SqlRender.Proofs.Database.Labels
import SqlRender.Proofs.Database.LoggedValues
import SqlRender.Proofs.Database.Operators
import SqlRender.Proofs.Database.QuotedNames
import SqlRender.Proofs.Database.StraySpaces
import SqlRender.Proofs.Database.UnionLimits
import SqlRender.Proofs.Database.Unsupported
import SqlRender.Proofs.Database.Upserts
import SqlRender.Proofs.Dialect.MysqlLiteral
import SqlRender.Proofs.Redaction.NormalForm
import SqlRender.Proofs.Expr.AtFault
import SqlRender.Proofs.Render.Intercalation
import SqlRender.Proofs.Query.Sentence
import SqlRender.Proofs.Query.Members
import SqlRender.Proofs.Query.Omission
import SqlRender.Proofs.Query.Rows
import SqlRender.Proofs.Query.BareKeywords
import SqlRender.Proofs.Trigger.Legality
import SqlRender.Proofs.Database.NameLists
import SqlRender.Proofs.Database.References
import SqlRender.Proofs.Trigger.Options
import SqlRender.Proofs.Schema.Alterations
import SqlRender.Proofs.Schema.ConstraintNames
import SqlRender.Proofs.Dsn.Redacted
import SqlRender.Proofs.Database.Incidents
import SqlRender.Proofs.Expr.Templates
import SqlRender.Proofs.Dialect.Registered
import SqlRender.Proofs.Database.PlaceholderOption
import SqlRender.Proofs.Expr.Lists
