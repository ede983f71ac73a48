import ModelineAssist.CommandLine.Run
import ModelineAssist.Completion
import ModelineAssist.Hover
import ModelineAssist.Main
import ModelineAssist.Proofs.Completion.Locality
import ModelineAssist.Proofs.Completion.Offers
import ModelineAssist.Proofs.Completion.Pointing
import ModelineAssist.Proofs.Completion.RoundTrip
import ModelineAssist.Proofs.Completion.Typing
import ModelineAssist.Proofs.Hover
import ModelineAssist.Proofs.Matching.Disregard
import ModelineAssist.Proofs.Matching.Permissive
import ModelineAssist.Proofs.Matching.SmartCase
import ModelineAssist.Proofs.Matching.Words
import ModelineAssist.Proofs.Modeline.ByOffset
import ModelineAssist.Proofs.Modeline.Scan
import ModelineAssist.Proofs.Registry.Defects
import ModelineAssist.Proofs.Registry.Range
import ModelineAssist.Proofs.Server.SettingsInForce
import ModelineAssist.Proofs.Settings.Loading
import ModelineAssist.Proofs.Text.LineEnds
import ModelineAssist.Server.Session
import ModelineAssist.Settings.Load
