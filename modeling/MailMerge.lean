import MailMerge.Main
import MailMerge.Proofs.Command.Listing
import MailMerge.Proofs.Command.Values
import MailMerge.Proofs.Expression.Chain
import MailMerge.Proofs.Expression.Labels
import MailMerge.Proofs.Expression.Missing
import MailMerge.Proofs.Expression.Suggestions
import MailMerge.Proofs.Field.Code
import MailMerge.Proofs.Field.Format
import MailMerge.Proofs.Field.Gaps
import MailMerge.Proofs.Field.Log
import MailMerge.Proofs.Field.Pattern
import MailMerge.Proofs.Template.Attributes
import MailMerge.Proofs.Template.Parts
import MailMerge.Proofs.Word.Display
import MailMerge.Proofs.Word.Edits
import MailMerge.Proofs.Word.Prefix
import MailMerge.Proofs.Word.Reload
import MailMerge.Proofs.Word.Repeat
import MailMerge.Proofs.Workbook.Edits
import MailMerge.Proofs.Workbook.Placeholders
import MailMerge.Proofs.Workbook.SharedStrings
import MailMerge.Proofs.Xml.Linear
import MailMerge.Proofs.Xml.Walk
