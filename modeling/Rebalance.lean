import Rebalance.Main
import Rebalance.Proofs.Move.RoundTrip
import Rebalance.Proofs.Run.Again
import Rebalance.Proofs.Run.Asking
import Rebalance.Proofs.Run.Exit
import Rebalance.Proofs.Run.Failing
import Rebalance.Proofs.Run.Naming
import Rebalance.Proofs.Run.Reuse
import Rebalance.Proofs.Run.Sharing
import Rebalance.Proofs.Storage.Lookup
import Rebalance.Proofs.Storage.Reload
import Rebalance.Proofs.Run.Filing
import Rebalance.Proofs.Run.Apart
import Rebalance.Proofs.Net.Decoding
import Rebalance.Proofs.Size
import Rebalance.Proofs.Move.Overrides
import Rebalance.Proofs.Run.Gate
import Rebalance.Proofs.Run.Populate
import Rebalance.Proofs.Move.Report
import Rebalance.Proofs.Storage.Named
import Rebalance.Proofs.Storage.Requested
import Rebalance.Proofs.Log.Console
import Rebalance.Proofs.Run.Folders
import Rebalance.Proofs.Duplicates.Message
