import Typeahead.Blacklist
import Typeahead.Candidate
import Typeahead.Codec
import Typeahead.CommandLine.Compile
import Typeahead.CommandLine.Help
import Typeahead.CommandLine.Options
import Typeahead.CommandLine.Outcome
import Typeahead.CommandLine.Typing
import Typeahead.Composer
import Typeahead.Context
import Typeahead.Correction
import Typeahead.Dictionary
import Typeahead.Disk
import Typeahead.Disk.Encoding
import Typeahead.Distance
import Typeahead.Engine.Action
import Typeahead.Engine.Learning
import Typeahead.Engine.Locales
import Typeahead.Engine.Lookup
import Typeahead.Engine.Report
import Typeahead.Engine.State
import Typeahead.Engine.Suggest
import Typeahead.Engine.Work
import Typeahead.Error
import Typeahead.Group
import Typeahead.Json
import Typeahead.Keyboard
import Typeahead.Lexicon.Basic
import Typeahead.Lexicon.Draft
import Typeahead.Lexicon.SourceLine
import Typeahead.Lexicon.Walk
import Typeahead.Locale
import Typeahead.Main
import Typeahead.Number.Decimal
import Typeahead.Number.Rounding
import Typeahead.Number.Single
import Typeahead.Number.Wrapping
import Typeahead.Path
import Typeahead.Proofs.Blacklist
import Typeahead.Proofs.Blacklist.Reloaded
import Typeahead.Proofs.Candidate.Rank
import Typeahead.Proofs.Candidate.Repeats
import Typeahead.Proofs.Composer
import Typeahead.Proofs.Composer.Backspace
import Typeahead.Proofs.Composer.Statistics
import Typeahead.Proofs.Context
import Typeahead.Proofs.Context.AfterStart
import Typeahead.Proofs.Context.Change
import Typeahead.Proofs.Context.Window
import Typeahead.Proofs.Correction
import Typeahead.Proofs.Correction.Arithmetic
import Typeahead.Proofs.Correction.Gates
import Typeahead.Proofs.Correction.Overflow
import Typeahead.Proofs.Correction.Strong
import Typeahead.Proofs.Correction.Tiers
import Typeahead.Proofs.Dictionary
import Typeahead.Proofs.Dictionary.Collection
import Typeahead.Proofs.Dictionary.ContextWords
import Typeahead.Proofs.Dictionary.Spellings
import Typeahead.Proofs.Disk
import Typeahead.Proofs.Disk.Opening
import Typeahead.Proofs.Distance.Edits
import Typeahead.Proofs.Distance.Exchanges
import Typeahead.Proofs.Engine.Alike
import Typeahead.Proofs.Engine.Apart
import Typeahead.Proofs.Engine.Blocked
import Typeahead.Proofs.Engine.Cleared
import Typeahead.Proofs.Engine.Edits
import Typeahead.Proofs.Engine.Filed
import Typeahead.Proofs.Engine.Forgotten
import Typeahead.Proofs.Engine.Groups
import Typeahead.Proofs.Engine.Joined
import Typeahead.Proofs.Engine.Kept
import Typeahead.Proofs.Engine.Lessons
import Typeahead.Proofs.Engine.Lists
import Typeahead.Proofs.Engine.Loads
import Typeahead.Proofs.Engine.Lookup
import Typeahead.Proofs.Engine.Mains
import Typeahead.Proofs.Engine.Orderly
import Typeahead.Proofs.Engine.Predicted
import Typeahead.Proofs.Engine.Promoted
import Typeahead.Proofs.Engine.Reachable
import Typeahead.Proofs.Engine.Removal
import Typeahead.Proofs.Engine.Removed
import Typeahead.Proofs.Engine.Reopened
import Typeahead.Proofs.Engine.Reset
import Typeahead.Proofs.Engine.Retyped
import Typeahead.Proofs.Engine.Shown
import Typeahead.Proofs.Engine.Sound
import Typeahead.Proofs.Engine.Spelled
import Typeahead.Proofs.Engine.Switched
import Typeahead.Proofs.Engine.Taught
import Typeahead.Proofs.Engine.Unlearned
import Typeahead.Proofs.Engine.Validity
import Typeahead.Proofs.Engine.Work
import Typeahead.Proofs.Group.Surplus
import Typeahead.Proofs.Group.Weights
import Typeahead.Proofs.Lexicon.Additions
import Typeahead.Proofs.Lexicon.AsciiWalk
import Typeahead.Proofs.Lexicon.Buckets
import Typeahead.Proofs.Lexicon.Lines
import Typeahead.Proofs.Lexicon.Offensive
import Typeahead.Proofs.Lexicon.Offers
import Typeahead.Proofs.Lexicon.Reach
import Typeahead.Proofs.Lexicon.Reading
import Typeahead.Proofs.Lexicon.Views
import Typeahead.Proofs.Number.Monotone
import Typeahead.Proofs.Number.Rounding
import Typeahead.Proofs.Provider
import Typeahead.Proofs.Provider.Names
import Typeahead.Proofs.Ranking.Best
import Typeahead.Proofs.Ranking.Borrowing
import Typeahead.Proofs.Ranking.Merge
import Typeahead.Proofs.Ranking.Room
import Typeahead.Proofs.Scoring
import Typeahead.Proofs.Scoring.Widths
import Typeahead.Proofs.Settings
import Typeahead.Proofs.Store
import Typeahead.Proofs.Store.Contexts
import Typeahead.Proofs.Store.Order
import Typeahead.Proofs.Store.Reached
import Typeahead.Proofs.Store.Teaching
import Typeahead.Proofs.Store.WriteThrough
import Typeahead.Proofs.Strip.Gesture
import Typeahead.Proofs.Strip.Rejected
import Typeahead.Proofs.Strip.Typing
import Typeahead.Proofs.Tables
import Typeahead.Proofs.TaskQueue.FanOut
import Typeahead.Proofs.TaskQueue.Service
import Typeahead.Proofs.TaskQueue.Turns
import Typeahead.Proofs.Text.Ascii
import Typeahead.Proofs.Text.Case
import Typeahead.Proofs.Text.Ends
import Typeahead.Proofs.Text.Fields
import Typeahead.Proofs.Text.Lower
import Typeahead.Proofs.Text.Pieces
import Typeahead.Proofs.WordMap
import Typeahead.Provider
import Typeahead.Ranking
import Typeahead.Scoring
import Typeahead.Settings
import Typeahead.Settings.File
import Typeahead.Store
import Typeahead.Strip
import Typeahead.TaskQueue
import Typeahead.Text.Basic
import Typeahead.Text.Case
import Typeahead.Text.CaseTable
import Typeahead.Text.ClassTable
import Typeahead.Text.DecompositionTable
import Typeahead.Text.NormalForm
import Typeahead.Text.Quoted
import Typeahead.Text.Table
import Typeahead.Toml.Basic
import Typeahead.Toml.Document
import Typeahead.Toml.Quoted
import Typeahead.Toml.Scalar
import Typeahead.Toml.Writer
import Typeahead.WordMap
