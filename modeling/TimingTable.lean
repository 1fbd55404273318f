import TimingTable.Main
import TimingTable.Report.Round
import TimingTable.Row.Shown
import TimingTable.Proofs.Text.Pieces
import TimingTable.Proofs.Text.Trim
import TimingTable.Proofs.Cells
import TimingTable.Proofs.Columns
import TimingTable.Proofs.Text.Lines
import TimingTable.Proofs.Table
import TimingTable.Proofs.Stage
import TimingTable.Proofs.Layout
import TimingTable.Proofs.RowLine
import TimingTable.Proofs.RoundTrip
import TimingTable.Proofs.ReportShape
import TimingTable.Proofs.Rounds
import TimingTable.Proofs.Injectivity
import TimingTable.Proofs.ReportRows
import TimingTable.Proofs.Alignment
import TimingTable.Proofs.Except
import TimingTable.Proofs.Text.Bytes
import TimingTable.Proofs.Store.Walk
import TimingTable.Proofs.Store.Read
import TimingTable.Proofs.Store.Outside
import TimingTable.Proofs.Store.Write
import TimingTable.Proofs.Runs
import TimingTable.Proofs.Loading
import TimingTable.Proofs.RepeatedRuns
import TimingTable.Proofs.Text.LineStarts
import TimingTable.Proofs.Text.LowerCase
import TimingTable.Proofs.Messages
import TimingTable.Proofs.Settings
import TimingTable.Proofs.Outcomes
import TimingTable.Proofs.LevelVariables
import TimingTable.Proofs.Accounting
import TimingTable.Proofs.Agreement
import TimingTable.Proofs.ErrorStream
import TimingTable.Proofs.PlainNames
import TimingTable.Proofs.Precedence
import TimingTable.Proofs.LoadedFile
import TimingTable.Proofs.Structures
import TimingTable.Proofs.Decoding
