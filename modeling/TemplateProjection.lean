import TemplateProjection.Session
import TemplateProjection.Proofs.Memo.Union
import TemplateProjection.Proofs.Run.Transparent
import TemplateProjection.Proofs.Projection.Transparent
import TemplateProjection.Proofs.Projection.Clauses
import TemplateProjection.Proofs.Session.Transparency
import TemplateProjection.Proofs.Projection.Returns
import TemplateProjection.Proofs.Position.Cursor
import TemplateProjection.Proofs.Position.Law
import TemplateProjection.Proofs.Raw.Fields
import TemplateProjection.Proofs.Raw.WellFormed
import TemplateProjection.Proofs.Grammar.Adaptation
import TemplateProjection.Proofs.Grammar.FirstViolation
import TemplateProjection.Proofs.Projection.Total
import TemplateProjection.Proofs.Path.Relocation
import TemplateProjection.Proofs.Error.Alike
import TemplateProjection.Proofs.Path.Resolution
import TemplateProjection.Proofs.Run.Alike
import TemplateProjection.Proofs.Projection.Splice
import TemplateProjection.Proofs.Position.Shown
import TemplateProjection.Proofs.Raw.Lenient
import TemplateProjection.Proofs.Grammar.Leniency
import TemplateProjection.Proofs.Raw.Image
import TemplateProjection.Proofs.Projection.Document
import TemplateProjection.Proofs.Projection.Reached
import TemplateProjection.Proofs.Projection.FirstFailure
import TemplateProjection.Proofs.Projection.InlineShorthand
import TemplateProjection.Proofs.Raw.InlineShorthand
import TemplateProjection.Proofs.Run.Congruence
import TemplateProjection.Proofs.Projection.Differences
import TemplateProjection.Proofs.Projection.Silence
import TemplateProjection.Proofs.Logged.Related
import TemplateProjection.Proofs.Raw.Differences
import TemplateProjection.Proofs.Raw.Related
import TemplateProjection.Proofs.Projection.Heads
import TemplateProjection.Proofs.Raw.Unread
import TemplateProjection.Proofs.Raw.Spelling
import TemplateProjection.Proofs.Raw.Heads
import TemplateProjection.Proofs.Projection.Root
import TemplateProjection.Proofs.Run.Success
import TemplateProjection.Proofs.Projection.Dropped
import TemplateProjection.Proofs.Projection.Success
import TemplateProjection.Proofs.Projection.SourceWidths
import TemplateProjection.Proofs.Grammar.Notices
import TemplateProjection.Proofs.Session.Notices
import TemplateProjection.Proofs.Text.Line
import TemplateProjection.Proofs.Value.Lines
import TemplateProjection.Proofs.Value.Objects
import TemplateProjection.Proofs.Value.Sorting
import TemplateProjection.Proofs.Value.SummaryLength
import TemplateProjection.Proofs.Error.Lines
import TemplateProjection.Proofs.Grammar.Messages
import TemplateProjection.Proofs.Projection.Messages
import TemplateProjection.Proofs.Session.Messages
import TemplateProjection.Proofs.Grammar.InnerNodes
import TemplateProjection.Proofs.Width.Attributes
