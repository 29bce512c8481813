import Scholia.Oracle.Lenient
import Scholia.Oracle.Record
import Scholia.Run.Assignment
import Scholia.Run.Report
import Scholia.Settings.Record
import Scholia.Source.Record
import Scholia.Template
import Scholia.Proofs.Text.Lines
import Scholia.Proofs.Comment.Terminator
import Scholia.Proofs.Comment.Containment
import Scholia.Proofs.Comment.Tag
import Scholia.Proofs.Comment.Reading
import Scholia.Proofs.Comment.Content
import Scholia.Proofs.Comment.Merging
import Scholia.Proofs.Comment.Wording
import Scholia.Proofs.Comment.Settling
import Scholia.Proofs.Source.Tree
import Scholia.Proofs.Source.Anchors
import Scholia.Proofs.Source.Forest
import Scholia.Proofs.Source.Regions
import Scholia.Proofs.Source.Order
import Scholia.Proofs.Source.Rendering
import Scholia.Proofs.Source.Rereading
import Scholia.Proofs.Cache.Expiry
import Scholia.Proofs.Oracle.Keeping
import Scholia.Proofs.Run.PassAccounting
import Scholia.Proofs.Comment.Region
import Scholia.Proofs.Disk.Likeness
import Scholia.Proofs.Run.Prefilter
import Scholia.Proofs.Oracle.Fairness
import Scholia.Proofs.Run.Twins
import Scholia.Proofs.Run.Shadow
import Scholia.Proofs.Run.DryRun
import Scholia.Proofs.Run.Faithful
import Scholia.Proofs.Oracle.Constancy
import Scholia.Proofs.Run.Steady
import Scholia.Proofs.Run.Ordering
import Scholia.Gate.Crowd
import Scholia.Proofs.Gate.Crowd
import Scholia.Proofs.Settings.Options
import Scholia.Proofs.Gate.Line
import Scholia.Proofs.Oracle.Registry
import Scholia.Proofs.Settings.Ranges
import Scholia.Proofs.Cache.Comments
import Scholia.Proofs.Disk.Marks
import Scholia.Proofs.Oracle.Separate
import Scholia.Proofs.Run.Blindness
import Scholia.Proofs.Run.Setback
import Scholia.Proofs.Run.Marks
import Scholia.Proofs.Run.Traceless
import Scholia.Proofs.Comment.Canonical
import Scholia.Proofs.Comment.Ink
import Scholia.Proofs.Comment.Indenting
import Scholia.Proofs.Run.Reporting
import Scholia.Proofs.Context.Selection
import Scholia.Proofs.Source.LineEndings
import Scholia.Proofs.Oracle.Retrying
import Scholia.Proofs.Binary64.Bits
import Scholia.Proofs.Tokens
import Scholia.Proofs.Run.Packing
import Scholia.Proofs.Similarity
import Scholia.Proofs.Run.Ranking
import Scholia.Proofs.Oracle.Vectors
import Scholia.Proofs.Source.Identity
import Scholia.Proofs.Run.Embedding
import Scholia.Proofs.Source.Sites
import Scholia.Proofs.Source.Surroundings
import Scholia.Proofs.Run.Treatment
import Scholia.Proofs.Run.Turns
import Scholia.Proofs.Run.Isolation
import Scholia.Proofs.Reply
import Scholia.Proofs.Oracle.Fencing
import Scholia.Proofs.Context.Packages
import Scholia.Proofs.Oracle.Schedule
