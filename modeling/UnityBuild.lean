import UnityBuild.Main
import UnityBuild.Proofs.Run.Again
import UnityBuild.Proofs.Unity.Aliases
import UnityBuild.Proofs.Unity.Inclusions
import UnityBuild.Proofs.Unity.MacroContext
import UnityBuild.Proofs.Unity.OwnRecord
import UnityBuild.Proofs.Path.Detours
import UnityBuild.Proofs.SkipSet.Members
import UnityBuild.Proofs.FileSystem.MadeDirectories
import UnityBuild.Proofs.FileSystem.Holding
import UnityBuild.Proofs.Run.Outcomes
import UnityBuild.Proofs.Run.Refusals
import UnityBuild.Proofs.Run.Calls
import UnityBuild.Proofs.Resolution.Extraction
import UnityBuild.Proofs.Unity.MacroLeaks
import UnityBuild.Proofs.Unity.Stages
import UnityBuild.Proofs.Invocation
import UnityBuild.Proofs.Diagnostic.Grammar
import UnityBuild.Proofs.Diagnostic.Stream
import UnityBuild.Proofs.Database.Loading
import UnityBuild.Proofs.Define
import UnityBuild.Proofs.Unity.GlobalFlags
import UnityBuild.Proofs.SkipSet.Rereading
import UnityBuild.Proofs.Path.Ways
import UnityBuild.Proofs.Path.Joining
import UnityBuild.Proofs.CommonDefines.Intersection
import UnityBuild.Proofs.Unity.FlagPlaces
import UnityBuild.Proofs.Unity.Exclusions
import UnityBuild.Proofs.Command.Words
import UnityBuild.Proofs.Unity.NewNames
import UnityBuild.Proofs.Naming.Runs
import UnityBuild.Proofs.Artifact
import UnityBuild.Proofs.Settings
import UnityBuild.Proofs.Unity.Rendering
import UnityBuild.Proofs.Renaming.Insertions
