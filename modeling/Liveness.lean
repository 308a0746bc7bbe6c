import Liveness.Main
import Liveness.Proofs.Bodies
import Liveness.Proofs.Correlation
import Liveness.Proofs.Log.Choice
import Liveness.Proofs.Log.Inheritance
import Liveness.Proofs.Log.Verdicts
import Liveness.Proofs.Methods
import Liveness.Proofs.Settings.Addresses
import Liveness.Proofs.Settings.Agreement
import Liveness.Proofs.Settings.Environments
import Liveness.Proofs.Settings.Selection
import Liveness.Proofs.Startup
import Liveness.Proofs.Targets
import Liveness.Settings.Directory
