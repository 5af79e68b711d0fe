import AssetTranspiler.Main
import AssetTranspiler.Proofs.Asset.PluginScript
import AssetTranspiler.Proofs.Asset.SourceAddress
import AssetTranspiler.Proofs.Bundle.Attempt
import AssetTranspiler.Proofs.Bundle.Command
import AssetTranspiler.Proofs.Console.Forward
import AssetTranspiler.Proofs.Console.Session
import AssetTranspiler.Proofs.Context.Breakdown
import AssetTranspiler.Proofs.Context.Collector
import AssetTranspiler.Proofs.Failure.Report
import AssetTranspiler.Proofs.Failure.Thrown
import AssetTranspiler.Proofs.Path.Classifier
import AssetTranspiler.Proofs.Path.Deployment
import AssetTranspiler.Proofs.Path.Extension
import AssetTranspiler.Proofs.Plugin.EmberCli
import AssetTranspiler.Proofs.Plugin.Registry
import AssetTranspiler.Proofs.Plugin.Resolution
import AssetTranspiler.Proofs.Plugin.Site
import AssetTranspiler.Proofs.Request.RoundTrip
import AssetTranspiler.Proofs.Request.SkipMarker
import AssetTranspiler.Proofs.Session.Chronicle
import AssetTranspiler.Proofs.Session.Collection
import AssetTranspiler.Proofs.Session.Declined
import AssetTranspiler.Proofs.Session.EngineTrace
import AssetTranspiler.Proofs.Session.Independence
import AssetTranspiler.Proofs.Session.Lifecycle
import AssetTranspiler.Proofs.Stress.Check
import AssetTranspiler.Proofs.Stress.Report
import AssetTranspiler.Proofs.Stress.Run
import AssetTranspiler.Session.Script
import AssetTranspiler.Session.Turn
