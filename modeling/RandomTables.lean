import RandomTables.Main
import RandomTables.Random.Scripted
import RandomTables.Proofs.CommandLine.Paths
import RandomTables.Proofs.Language
import RandomTables.Proofs.Expansion.Hygiene
import RandomTables.Proofs.Expansion.Plain
import RandomTables.Proofs.Expansion.Section
import RandomTables.Proofs.Lint.Clean
import RandomTables.Proofs.Lint.Cycles
import RandomTables.Proofs.Lint.Endless
import RandomTables.Proofs.Text.Trim
import RandomTables.Proofs.Store.FromFiles
import RandomTables.Proofs.Store.Update
import RandomTables.Proofs.Checked.Machine
import RandomTables.Proofs.Checked.Spec
import RandomTables.Proofs.TableFile.Encoding
import RandomTables.Proofs.Checked.Roll
import RandomTables.Proofs.Checked.Engine
import RandomTables.Proofs.Shell.Session
import RandomTables.Proofs.Template.Pieces
import RandomTables.Proofs.Store.Independent
import RandomTables.Proofs.Expansion.Limit
import RandomTables.Proofs.TableFile.Sections
import RandomTables.Proofs.Choice.Proportion
import RandomTables.Proofs.Dice.Spec
import RandomTables.Proofs.Range.Spec
import RandomTables.Proofs.Dice.Printing
import RandomTables.Proofs.Range.Outcome
import RandomTables.Proofs.Dice.Total
import RandomTables.Proofs.Dice.Bounds
import RandomTables.Proofs.ReferenceGraph.Cycles
import RandomTables.Proofs.Report
import RandomTables.Proofs.Dice.Registry
import RandomTables.Proofs.Store.Directory
import RandomTables.Proofs.Range.Printing
import RandomTables.Proofs.Lint.Named
