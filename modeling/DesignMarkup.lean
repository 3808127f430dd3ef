import DesignMarkup.Export.Editing
import DesignMarkup.Export.Guarded
import DesignMarkup.Main
import DesignMarkup.Markup.Unchecked
import DesignMarkup.Palette.Unchecked
import DesignMarkup.Registry.Unchecked
import DesignMarkup.Registry.Guarded
import DesignMarkup.Proofs.FirstSeen
import DesignMarkup.Proofs.Registry.History
import DesignMarkup.Proofs.Registry.Invariant
import DesignMarkup.Proofs.Markup.Reader
import DesignMarkup.Proofs.Markup.Shown
import DesignMarkup.Proofs.Palette.Literal
import DesignMarkup.Proofs.Export.Resources
import DesignMarkup.Proofs.Registry.Rank
import DesignMarkup.Proofs.Registry.Fields
import DesignMarkup.Proofs.Registry.SharedKeys
import DesignMarkup.Proofs.Export.Calls
import DesignMarkup.Proofs.Export.LabelKeys
import DesignMarkup.Proofs.Export.LabelText
import DesignMarkup.Proofs.Export.ClassBlock
import DesignMarkup.Proofs.Validation
import DesignMarkup.Proofs.Export.ColorReferences
import DesignMarkup.Proofs.Number.Characters
import DesignMarkup.Proofs.Number.Codes
import DesignMarkup.Proofs.Number.Decimals
import DesignMarkup.Proofs.Number.Shortest
import DesignMarkup.Proofs.Number.PlainText
import DesignMarkup.Proofs.Markup.Decoding
import DesignMarkup.Proofs.Registry.Display
import DesignMarkup.Proofs.Registry.IgnoredFonts
import DesignMarkup.Proofs.Export.IgnoredFonts
import DesignMarkup.Proofs.Export.Issues
import DesignMarkup.Proofs.Export.Agreement
import DesignMarkup.Proofs.Export.HostOrder
import DesignMarkup.Proofs.Typography.Rounding
import DesignMarkup.Proofs.Markup.Lines
import DesignMarkup.Proofs.Markup.StartTag
import DesignMarkup.Proofs.Markup.Guarded
import DesignMarkup.Proofs.Registry.Guarded
import DesignMarkup.Proofs.Export.Guarded
import DesignMarkup.Proofs.Export.Failures
import DesignMarkup.Proofs.Palette.NamedColors
import DesignMarkup.Proofs.Text.Lines
import DesignMarkup.Proofs.Text.Case
import DesignMarkup.Proofs.Export.ColorDocument
import DesignMarkup.Proofs.Export.Regions
import DesignMarkup.Proofs.Export.LookAlikes
import DesignMarkup.Proofs.Export.StyleDocument
import DesignMarkup.Proofs.Registry.FailedRequests
import DesignMarkup.CommandLine.Guarded
import DesignMarkup.Proofs.CommandLine.Guarded
import DesignMarkup.Proofs.CommandLine.Run
import DesignMarkup.Proofs.Number.Nearest
import DesignMarkup.Proofs.Number.Coarsest
import DesignMarkup.Proofs.Number.HalfUp
import DesignMarkup.Proofs.Typography.RoundedSizes
import DesignMarkup.Proofs.Typography.Boundaries
import DesignMarkup.Proofs.IssueList
import DesignMarkup.Proofs.Palette.Bytes
import DesignMarkup.Proofs.Markup.Warnings
import DesignMarkup.Proofs.Number.ReadBack
import DesignMarkup.Proofs.Registry.TreeLines
import DesignMarkup.Proofs.CommandLine.Summary
import DesignMarkup.Proofs.Export.Sizes
