import StaticSite.Json.Reader
import StaticSite.Main
import StaticSite.Proofs.Context.Filling
import StaticSite.Proofs.Context.Grouping
import StaticSite.Proofs.Context.Nesting
import StaticSite.Proofs.Context.Relations
import StaticSite.Proofs.Context.Scopes
import StaticSite.Proofs.DateFormat.Accepting
import StaticSite.Proofs.DateFormat.Pieces
import StaticSite.Proofs.DateFormat.RoundTrip
import StaticSite.Proofs.DateFormat.Showing
import StaticSite.Proofs.Directive.Body
import StaticSite.Proofs.FrontMatter
import StaticSite.Proofs.Json.Rendering
import StaticSite.Proofs.Markdown.Callouts
import StaticSite.Proofs.Markdown.Headings
import StaticSite.Proofs.Markdown.Links
import StaticSite.Proofs.Markdown.Targets
import StaticSite.Proofs.Markdown.WellFormed
import StaticSite.Proofs.Output
import StaticSite.Proofs.Pagination.Partition
import StaticSite.Proofs.Project.Aftermath
import StaticSite.Proofs.Project.Loading
import StaticSite.Proofs.Project.Properties
import StaticSite.Proofs.Project.Settings
import StaticSite.Proofs.Project.Templates
import StaticSite.Proofs.Query.Integers
import StaticSite.Proofs.Query.Parameters
import StaticSite.Proofs.Query.Window
import StaticSite.Proofs.Site.Listings
import StaticSite.Proofs.Site.Updates
