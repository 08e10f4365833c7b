import ChatMarkup.Main
import ChatMarkup.Markdown.Received
import ChatMarkup.Proofs.Cli.Records
import ChatMarkup.Proofs.Markdown.Descriptions
import ChatMarkup.Proofs.Markdown.Placement
import ChatMarkup.Proofs.Markup.Budget
import ChatMarkup.Proofs.Markup.Tokens
import ChatMarkup.Proofs.Markup.Truncation
import ChatMarkup.Proofs.Messages.Handover
import ChatMarkup.Proofs.Records.Pairing
import ChatMarkup.Proofs.Render.Escaping
import ChatMarkup.Proofs.Render.Faithful
import ChatMarkup.Proofs.Render.Positions
import ChatMarkup.Proofs.Render.Quotes
import ChatMarkup.Proofs.Render.Shapes
import ChatMarkup.Proofs.Settings.Validation
import ChatMarkup.Proofs.SourceTable.Fences
import ChatMarkup.Proofs.SourceTable.ReadBack
import ChatMarkup.Proofs.Spoiler.Pairs
import ChatMarkup.Proofs.Tree.Canonical
import ChatMarkup.Proofs.Tree.Reading
import ChatMarkup.Proofs.Tree.Lenient
import ChatMarkup.Text.Emoji
import ChatMarkup.Proofs.Tree.Checking
import ChatMarkup.Proofs.Render.Readings
import ChatMarkup.Proofs.Markup.Carrying
import ChatMarkup.Proofs.Markup.FirstCut
import ChatMarkup.Proofs.Escape.Backslashes
import ChatMarkup.Proofs.Markup.ForcedCut
import ChatMarkup.Proofs.Markup.Tokens
