import Jevmalloc.SizeClass
import Jevmalloc.Allocation
import Jevmalloc.Stats.Report
import Jevmalloc.Arena.ExtentRuns
import Jevmalloc.Interaction.ReleaseAcquire
import Jevmalloc.Ctl.Key
import Jevmalloc.Ctl.Mibs
import Jevmalloc.Ctl.Cache
import Jevmalloc.Ctl.CacheThreads
import Jevmalloc.Ctl.Raw
import Jevmalloc.Ctl.Names
import Jevmalloc.Ctl.Process
import Jevmalloc.Arena.Handle
import Jevmalloc.Arena.Calls
import Jevmalloc.Arena.Selection
import Jevmalloc.Arena.Name
import Jevmalloc.Ctl.Runs
import Jevmalloc.Interaction.Registry
import Jevmalloc.Ctl.Lifecycle
import Jevmalloc.Thread.Cache
import Jevmalloc.Arena.Ownership
import Jevmalloc.Thread.CacheLifecycle
import Jevmalloc.Text.Lines
import Jevmalloc.Interaction.Watch
import Jevmalloc.Build.Path
import Jevmalloc.Build.Script
import Jevmalloc.Build.Rebuild
import Jevmalloc.Build.Output
import Jevmalloc.Build.Override
import Jevmalloc.Words.Regions
import Jevmalloc.Contents
import Jevmalloc.Interaction.Erasure
import Jevmalloc.Builds
import Jevmalloc.Interaction.Ledger
import Jevmalloc.Ctl.Typed
import Jevmalloc.Ctl.Catalogue
import Jevmalloc.Ctl.Serial
import Jevmalloc.Ctl.Served
import Jevmalloc.Stats.Epoch
import Jevmalloc.Thread.Settings
import Jevmalloc.Interaction.Pins
import Jevmalloc.Thread.Association
import Jevmalloc.Files.Tree
import Jevmalloc.Build.Copy
import Jevmalloc.Interaction.Guarded
import Jevmalloc.Build.Configure
import Jevmalloc.Build.Pipeline
import Jevmalloc.Build.Commands
import Jevmalloc.Build.Scratch
import Jevmalloc.Ctl.Linear
import Jevmalloc.Arena.Settings
import Jevmalloc.Ctl.Known
