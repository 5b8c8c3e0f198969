import Colony.Chance.Sha256
import Colony.Chance.Source
import Colony.Chance.Streams
import Colony.Chance.Twister
import Colony.Chronicle
import Colony.Chronicle.Event
import Colony.Chronicle.Leaderboard
import Colony.Chronicle.Note
import Colony.Chronicle.Ring
import Colony.Chronicle.Severity
import Colony.Cleansing.Operation
import Colony.Cleansing.Party
import Colony.Decimal.Layout
import Colony.Decimal.Nearest
import Colony.Decimal.Numeral
import Colony.Decimal.Shortest
import Colony.Economy
import Colony.Economy.Ledger
import Colony.Economy.Stock
import Colony.Failure
import Colony.Live
import Colony.Live.Engines
import Colony.Live.World
import Colony.Npc.Action
import Colony.Npc.Profile
import Colony.Npc.Role
import Colony.Npc.Roster
import Colony.Outcome
import Colony.Plague
import Colony.Rebellion
import Colony.Scalar
import Colony.Scalar.Amount
import Colony.Scalar.Binary
import Colony.Scalar.Rational
import Colony.Settings
import Colony.Settings.Assignment
import Colony.Settings.Knob
import Colony.Settings.Override
import Colony.Sorting
import Colony.Table
import Colony.Text.Blank
import Colony.Text.DecimalDigit
import Colony.Text.Hex
import Colony.Text.Lower
import Colony.Text.Point
import Colony.Text.Printable
import Colony.Text.Quoted
import Colony.Text.Ranges
import Colony.Text.Split
import Colony.Value.Basic
import Colony.Value.Compact
import Colony.Value.Entries
import Colony.Value.Integer
import Colony.Value.Plain
import Colony.Value.Text
import Colony.World
import Colony.World.Deed
import Colony.World.Deployment
import Colony.World.Population
import Colony.Proofs.Operation
import Colony.Proofs.Order
import Colony.Proofs.Plague.Band
import Colony.Proofs.Economy.Conservation
import Colony.Proofs.Chronicle.Hearing
import Colony.Proofs.Live.Notes
import Colony.Proofs.Live.Operation
import Colony.Proofs.Live.Unfelt
import Colony.Proofs.Chronicle.Unobserved
import Colony.Proofs.Chronicle.Telling
import Colony.Proofs.Scalar.Counting
import Colony.Proofs.Scalar.Fraction
import Colony.Proofs.Chronicle.Leaderboard
import Colony.Proofs.Chronicle.Ranking
import Colony.Proofs.Answer
import Colony.Proofs.World.Notes
import Colony.Proofs.World.Registry
import Colony.Proofs.World.Highest
import Colony.Proofs.Chance.Independence
import Colony.Proofs.Chance.Draw
import Colony.Proofs.World.Deed
import Colony.Proofs.World.Report
import Colony.Proofs.World.Deployment
import Colony.Proofs.Plague.Flicker
import Colony.Proofs.Plague.Log
import Colony.Proofs.Plague.Worse
import Colony.Proofs.Refusal
import Colony.Proofs.Refusal.Engines
import Colony.Proofs.World.Refusal
import Colony.Proofs.World.Conversion
import Colony.Proofs.Economy.Split
import Colony.Proofs.Economy.OneWay
import Colony.Proofs.World.Split
import Colony.Proofs.World.Isolation
import Colony.Proofs.Economy.Mirror
import Colony.Proofs.World.Mirror
import Colony.Proofs.Text.Escape
import Colony.Proofs.Text.Quotes
import Colony.Proofs.Text.Listed
import Colony.Proofs.Value.Alike
import Colony.Proofs.Value.Compact
import Colony.Proofs.Chance.Key
import Colony.Proofs.Economy.Mining
import Colony.Proofs.Decimal.Nearest
import Colony.Proofs.Scalar.Overflow
import Colony.Proofs.Economy.Account
import Colony.Proofs.World.Account
import Colony.Proofs.World.HeadCount
import Colony.Proofs.World.Range
import Colony.Proofs.Chronicle.Recording
import Colony.Proofs.Chronicle.Sizes
import Colony.Proofs.Scalar.Sign
import Colony.Proofs.Scalar.Quotient
import Colony.Proofs.Economy.Levels
import Colony.Proofs.Economy.Solvent
import Colony.Proofs.Division
import Colony.Proofs.Chronicle.Latest
import Colony.Proofs.Economy.ClosedForm
import Colony.Proofs.Settings.Key
import Colony.Proofs.Settings.Override
import Colony.Proofs.Settings.Mapping
import Colony.Proofs.Decimal.Numeral
import Colony.Proofs.Settings.Assignment
import Colony.Proofs.Rebellion.Monotone
import Colony.Proofs.Rebellion.Actions
import Colony.Proofs.Mean
import Colony.Proofs.Cleansing.Symmetry
import Colony.Proofs.Npc.Roster
import Colony.Proofs.World.Party
import Colony.Proofs.World.Population
import Colony.Proofs.Chronicle.Recent
import Colony.Proofs.Economy.Sites
import Colony.Proofs.Value.Plain
import Colony.Proofs.Value.Closed
import Colony.Proofs.Chance.Salt
