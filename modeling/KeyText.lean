import KeyText.File.Tree
import KeyText.Main
import KeyText.Proofs.Base58.Arithmetic
import KeyText.Proofs.Base58.Numeral
import KeyText.Proofs.Base58.Checked
import KeyText.Proofs.Base58.WrongCharacter
import KeyText.Proofs.Base58.Buffer
import KeyText.Proofs.Base58.Calls
import KeyText.Proofs.Search.Positions
import KeyText.Proofs.Search.Odometer
import KeyText.Proofs.Search.Drawing
import KeyText.Proofs.Search.Exhaustive
import KeyText.Proofs.Search.States
import KeyText.Proofs.Repair.Overwrite
import KeyText.Proofs.Repair.Run
import KeyText.Proofs.Repair.Reports
import KeyText.Proofs.Repair.Refinement
import KeyText.Proofs.Repair.Verdicts
import KeyText.Proofs.Repair.Safety
import KeyText.Proofs.Repair.Characters
import KeyText.Proofs.Repair.Candidates
import KeyText.Proofs.Repair.Outcome
import KeyText.Proofs.Repair.Distance
import KeyText.Proofs.Search.Count
import KeyText.Proofs.Repair.Ending
import KeyText.Proofs.Repair.Planned
import KeyText.Proofs.Repair.Progress
import KeyText.Proofs.Repair.Places
import KeyText.Proofs.Repair.Preference
import KeyText.Proofs.Repair.Consistency
import KeyText.Proofs.Repair.Numbering
import KeyText.Proofs.Repair.Accepted
import KeyText.Proofs.Repair.WrongCharacters
import KeyText.Proofs.Base58.Canonical
import KeyText.Proofs.Base58.Horner
import KeyText.Proofs.Base58.Sizes
import KeyText.Proofs.Base58.Passes
import KeyText.Proofs.Base58.Carries
import KeyText.Proofs.Results
import KeyText.Proofs.Bytes.Hex
import KeyText.Proofs.Text.Blank
import KeyText.Proofs.Command.Input
import KeyText.Proofs.Command.HexInput
import KeyText.Proofs.Base58.Texts
import KeyText.Proofs.Command.RoundTrip
import KeyText.Proofs.Address
import KeyText.Proofs.Payload
import KeyText.Proofs.Command.Address
import KeyText.Proofs.Decimal.Magnitude
import KeyText.Proofs.Decimal.Characters
import KeyText.Proofs.Report.Lines
import KeyText.Proofs.Report.Columns
