import EditorBridge.Main
import EditorBridge.Proofs.CommandOutcome
import EditorBridge.Proofs.FaceNesting
import EditorBridge.Proofs.MarkupSafety
import EditorBridge.Proofs.MarkupText
import EditorBridge.Proofs.NotificationReads
import EditorBridge.Proofs.ReportPages
import EditorBridge.Proofs.ReportText
import EditorBridge.Proofs.RunOutcome
import EditorBridge.Proofs.SessionMessages
import EditorBridge.Proofs.TableAlignment
import EditorBridge.Proofs.TargetsDocument
import EditorBridge.Proofs.WindowScript
import EditorBridge.Proofs.PlainTextReader
import EditorBridge.Proofs.TableRows
import EditorBridge.Proofs.FileLocations
import EditorBridge.Proofs.Landmarks
import EditorBridge.Proofs.ReportLandmarks
import EditorBridge.Proofs.BareText
import EditorBridge.Proofs.EscapedText
import EditorBridge.Proofs.FilePaths
import EditorBridge.Proofs.ListMarkers
import EditorBridge.Proofs.QuoteMarks
import EditorBridge.Proofs.SlugForm
import EditorBridge.Proofs.MarkupEnding
import EditorBridge.Proofs.PageWrapper
import EditorBridge.Proofs.EntityDecoding
