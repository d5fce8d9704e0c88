import TestExclusions.Main
import TestExclusions.Proofs.Command.Check
import TestExclusions.Proofs.Command.Leftover
import TestExclusions.Proofs.Command.Replay
import TestExclusions.Proofs.Command.Selection
import TestExclusions.Proofs.Command.Session
import TestExclusions.Proofs.Command.Target
import TestExclusions.Proofs.Installed
import TestExclusions.Proofs.Line.Unquoted
import TestExclusions.Proofs.Load.Isolation
import TestExclusions.Proofs.Manifest.Formats
import TestExclusions.Proofs.Newline
import TestExclusions.Proofs.Registry.Duplicate
