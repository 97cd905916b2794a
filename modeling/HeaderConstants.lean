import HeaderConstants.Main
import HeaderConstants.Session
import HeaderConstants.Proofs.Repetition
import HeaderConstants.Proofs.Catalog
import HeaderConstants.Proofs.Contents
import HeaderConstants.Proofs.Answers
import HeaderConstants.Proofs.StandardSource
import HeaderConstants.Proofs.Sameness
import HeaderConstants.Proofs.Agreement
import HeaderConstants.Proofs.FamilyChoice
import HeaderConstants.Proofs.KeptResolver
import HeaderConstants.Proofs.Stages
import HeaderConstants.Proofs.Verdicts
import HeaderConstants.Proofs.ExitCodes
import HeaderConstants.Proofs.Assignments
import HeaderConstants.Proofs.Arguments
import HeaderConstants.Proofs.ResolveCommand
import HeaderConstants.Proofs.MarkupSpans
import HeaderConstants.Proofs.LiteralText
import HeaderConstants.Proofs.FamilyTables
import HeaderConstants.Proofs.LogSetups
import HeaderConstants.Proofs.Diagnosis
import HeaderConstants.Proofs.Truncation
import HeaderConstants.Proofs.Hints
import HeaderConstants.Proofs.Warnings
import HeaderConstants.Proofs.Nesting
import HeaderConstants.Proofs.Reordering
import HeaderConstants.Proofs.Views
import HeaderConstants.Proofs.TierBlocks
import HeaderConstants.Proofs.ListCommand
import HeaderConstants.Proofs.BuildLog
import HeaderConstants.Proofs.WordForms
import HeaderConstants.Proofs.FamilyWords
import HeaderConstants.Proofs.LevelWords
import HeaderConstants.Proofs.ListRows
import HeaderConstants.Proofs.EscapedTags
import HeaderConstants.Proofs.ActiveTags
import HeaderConstants.Proofs.QuotedText
import HeaderConstants.Proofs.Messages
