import Arboretum.Main
import Arboretum.Document.Reading
import Arboretum.Document.Settings
import Arboretum.Text.Line
import Arboretum.Text.Styling
import Arboretum.Document.Shown
import Arboretum.Proofs.Animation.Reveal
import Arboretum.Proofs.Animation.Replay
import Arboretum.Proofs.Animation.Faithfulness
import Arboretum.Proofs.Animation.Pace
import Arboretum.Proofs.Animation.CurrentRun
import Arboretum.Proofs.Animation.Upkeep
import Arboretum.Proofs.Chance.Coupling
import Arboretum.Proofs.Chance.Recording
import Arboretum.Proofs.Tree.Draws
import Arboretum.Proofs.Tree.Lineage
import Arboretum.Proofs.Grammar.Counting
import Arboretum.Proofs.Grammar.Nesting
import Arboretum.Proofs.Grammar.ActivePath
import Arboretum.Proofs.Grammar.Deepening
import Arboretum.Proofs.Animation.Settling
import Arboretum.Proofs.Animation.Renewal
import Arboretum.Proofs.Tree.Levels
import Arboretum.Proofs.Animation.Activity
import Arboretum.Proofs.Animation.Canvas
import Arboretum.Proofs.Tree.Brackets
import Arboretum.Proofs.Configuration
import Arboretum.Proofs.Animation.Quota
import Arboretum.Proofs.Animation.Endurance
import Arboretum.Proofs.Animation.Shedding
import Arboretum.Proofs.Animation.MoteLine
import Arboretum.Proofs.Tree.Endurance
import Arboretum.Proofs.Tree.Extent
import Arboretum.Proofs.Tree.SideBranches
import Arboretum.Proofs.Tree.Foliage
import Arboretum.Proofs.Command.Simulation
import Arboretum.Proofs.Animation.Drift
import Arboretum.Proofs.Tree.Mending
import Arboretum.Proofs.Tree.Certainty
import Arboretum.Proofs.Animation.Deadlines
import Arboretum.Proofs.Animation.Sampling
import Arboretum.Proofs.Text.Plain
import Arboretum.Proofs.Grammar.Choice
import Arboretum.Proofs.Animation.Restart
import Arboretum.Proofs.Number.Order
import Arboretum.Proofs.Parameters
import Arboretum.Proofs.Summary
import Arboretum.Proofs.Grammar.Yield
