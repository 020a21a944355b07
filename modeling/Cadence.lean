import Cadence.Calendar.Date
import Cadence.Calendar.Month
import Cadence.Calendar.Week
import Cadence.Calendar.Moment
import Cadence.Calendar.Text
import Cadence.Text.Blank
import Cadence.Zone.Database
import Cadence.Zone.Source
import Cadence.Zone.Spans
import Cadence.Zone.Resolve
import Cadence.Text.Number
import Cadence.Rule.Basic
import Cadence.Rule.Error
import Cadence.Rule.Stamp
import Cadence.Rule.Text
import Cadence.Rule.Parse
import Cadence.Rule.Summary
import Cadence.Walk.Period
import Cadence.Walk.Expand
import Cadence.Stream.Source
import Cadence.Walk.Occurrences
import Cadence.Walk.Combined
import Cadence.Schedule.Basic
import Cadence.Store.Format
import Cadence.Settings.Precreate
import Cadence.Settings.Basic
import Cadence.Store.Materialize
import Cadence.Store.Item
import Cadence.Store.Policy
import Cadence.Settings.Toml
import Cadence.Main
import Cadence.Proofs.Calendar.DayCount
import Cadence.Proofs.Text.ReadBack
import Cadence.Proofs.Rule.StampText
import Cadence.Proofs.Rule.StampForms
import Cadence.Proofs.Calendar.RenderInjective
import Cadence.Proofs.Rule.Values
import Cadence.Proofs.Rule.RuleText
import Cadence.Proofs.Rule.Grammar
import Cadence.Proofs.Rule.DefinitionText
import Cadence.Proofs.Walk.PeriodBounds
import Cadence.Proofs.Zone.Search
import Cadence.Proofs.Walk.Truncation
import Cadence.Proofs.Walk.Anchor
import Cadence.Proofs.Stream.Run
import Cadence.Proofs.Stream.Union
import Cadence.Proofs.Walk.Order
import Cadence.Proofs.Stream.Difference
import Cadence.Proofs.Stream.Merge
import Cadence.Proofs.Stream.Exclusion
import Cadence.Proofs.Walk.Combined
import Cadence.Proofs.Calendar.Selection
import Cadence.Proofs.Walk.Expansion
import Cadence.Proofs.Walk.Weekly
import Cadence.Proofs.Store.Horizon
import Cadence.Proofs.Walk.Records
import Cadence.Proofs.Walk.Guard
import Cadence.Proofs.Walk.Narrow
import Cadence.Proofs.Walk.Skipping
import Cadence.Proofs.Walk.Until
import Cadence.Proofs.Schedule.Window
import Cadence.Proofs.Schedule.Cap
import Cadence.Proofs.Store.Distinct
import Cadence.Proofs.Store.Entry
import Cadence.Proofs.Walk.Termination
import Cadence.Proofs.Settings.Window
import Cadence.Proofs.Rule.Summary
import Cadence.Proofs.Calendar.Months
import Cadence.Proofs.Calendar.Weekdays
import Cadence.Proofs.Walk.Ascending
import Cadence.Proofs.Walk.FixedOffset
import Cadence.Proofs.Walk.Cycle
import Cadence.Proofs.Walk.GivingUp
