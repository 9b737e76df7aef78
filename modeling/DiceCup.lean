import DiceCup.AbilityScores
import DiceCup.Binary.Basic
import DiceCup.Binary.Decimal
import DiceCup.Command.Arguments
import DiceCup.Command.Invocation
import DiceCup.Command.Report
import DiceCup.Cup.Basic
import DiceCup.Cup.History
import DiceCup.Cup.Roll
import DiceCup.Die.Basic
import DiceCup.Error
import DiceCup.Figure
import DiceCup.Formula.Basic
import DiceCup.Formula.Identifier
import DiceCup.Formula.Roll
import DiceCup.Json.Basic
import DiceCup.Json.Decode
import DiceCup.Json.Reader
import DiceCup.Json.Shown
import DiceCup.Json.Writer
import DiceCup.Main
import DiceCup.Pool.Basic
import DiceCup.Pool.Change
import DiceCup.Pool.Selection
import DiceCup.Proofs.AbilityScores.Array
import DiceCup.Proofs.Binary.Rounding
import DiceCup.Proofs.Command.Call
import DiceCup.Proofs.Command.Printing
import DiceCup.Proofs.Cup.Action
import DiceCup.Proofs.Cup.Replay
import DiceCup.Proofs.Cup.Reseed
import DiceCup.Proofs.Cup.Roll
import DiceCup.Proofs.Cup.Schedule
import DiceCup.Proofs.Cup.Separation
import DiceCup.Proofs.Cup.Streams
import DiceCup.Proofs.Cup.Turns
import DiceCup.Proofs.Figure.JsonIntegers
import DiceCup.Proofs.Figure.Narrowing
import DiceCup.Proofs.Figure.Texts
import DiceCup.Proofs.Formula.Bonus
import DiceCup.Proofs.Formula.Canonical
import DiceCup.Proofs.Formula.Description
import DiceCup.Proofs.Formula.Grammar
import DiceCup.Proofs.Formula.KeepAll
import DiceCup.Proofs.Formula.KeepDefault
import DiceCup.Proofs.Formula.OutcomeText
import DiceCup.Proofs.Formula.Refusal
import DiceCup.Proofs.Formula.Spelling
import DiceCup.Proofs.Formula.Total
import DiceCup.Proofs.Json.Decoding
import DiceCup.Proofs.Json.Layout
import DiceCup.Proofs.Json.Scalars
import DiceCup.Proofs.Json.Writing
import DiceCup.Proofs.Pool.Halt
import DiceCup.Proofs.Pool.Invariant
import DiceCup.Proofs.Pool.Keep
import DiceCup.Proofs.Pool.Optimum
import DiceCup.Proofs.Pool.Parts
import DiceCup.Proofs.Pool.Ranking
import DiceCup.Proofs.Pool.Refusal
import DiceCup.Proofs.Pool.Reroll
import DiceCup.Proofs.Pool.Roll
import DiceCup.Proofs.Pool.Totals
import DiceCup.Proofs.Record.Outcome
import DiceCup.Proofs.Record.PartialSettings
import DiceCup.Proofs.Record.Settings
import DiceCup.Proofs.RollBook.Cache
import DiceCup.Proofs.RollBook.Readings
import DiceCup.Proofs.Settings.Order
import DiceCup.Proofs.Settings.Validity
import DiceCup.Proofs.Text.Clauses
import DiceCup.Proofs.Text.Reading
import DiceCup.Proofs.Text.Signed
import DiceCup.Random.Face
import DiceCup.Random.Keystream
import DiceCup.Random.Source
import DiceCup.Record.Formula
import DiceCup.Record.Pool
import DiceCup.Record.Settings
import DiceCup.Session
import DiceCup.Settings.Basic
import DiceCup.Settings.Field
import DiceCup.Technique
import DiceCup.Text.Characters
import DiceCup.Text.Digits
import DiceCup.Text.Words
import DiceCup.Width
