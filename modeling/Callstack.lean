import Callstack.Cli.Run
import Callstack.Image.Listing
import Callstack.Loader
import Callstack.Main
import Callstack.Proofs.Dump
import Callstack.Proofs.Capture
import Callstack.Proofs.History
import Callstack.Proofs.Sharing
import Callstack.Report
import Callstack.Symbolizer
import Callstack.Proofs.Image
import Callstack.Proofs.LoadBias
import Callstack.Proofs.Stopping
import Callstack.Proofs.Selection
import Callstack.Proofs.BoundedSink
import Callstack.Proofs.Injectivity
import Callstack.Proofs.Recording
import Callstack.Proofs.Confinement
import Callstack.Proofs.Report
import Callstack.Proofs.Foreign
import Callstack.Proofs.BoundedList
import Callstack.Proofs.NestedNames
