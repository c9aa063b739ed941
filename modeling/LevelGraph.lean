import LevelGraph.CommandLine.InMemory
import LevelGraph.Logging.Logbook
import LevelGraph.Main
import LevelGraph.Proofs.Document.Rebuild
import LevelGraph.Proofs.NormalForm
import LevelGraph.Proofs.Schema.Acceptance
import LevelGraph.Proofs.Schema.Hierarchy
import LevelGraph.Proofs.Workspace.CellOrder
import LevelGraph.Proofs.Workspace.CleanStored
import LevelGraph.Proofs.Workspace.Concealment
import LevelGraph.Proofs.Workspace.Links
import LevelGraph.Proofs.Workspace.Reload
import LevelGraph.Proofs.Workspace.ResolveFrame
import LevelGraph.Proofs.Workspace.SaveHistory
import LevelGraph.Proofs.Workspace.SaveSweep
import LevelGraph.Schema.DeclarationText
import LevelGraph.Store.Contact
import LevelGraph.Store.Image
import LevelGraph.Proofs.Document.Removal
import LevelGraph.Proofs.Editor.ListMachine
import LevelGraph.Proofs.Workspace.TargetNode
import LevelGraph.Proofs.Schema.Kinds
import LevelGraph.Proofs.Editor.Registration
import LevelGraph.Proofs.Store.CurrentLayout
import LevelGraph.Proofs.Store.Locations
import LevelGraph.Proofs.Text.ByteOrder
import LevelGraph.Proofs.Store.LocationMap
import LevelGraph.Proofs.Schema.Slots
import LevelGraph.Proofs.Host
import LevelGraph.Proofs.Logging
import LevelGraph.Proofs.Workspace.Warnings
import LevelGraph.Proofs.Store.AllOrNothing
import LevelGraph.Proofs.CommandLine.Runs
import LevelGraph.Proofs.Settings
import LevelGraph.Proofs.Schema.DeclarationText
import LevelGraph.Proofs.Text.OneLine
