import ConversationRuntime.Recording.Permanence
import ConversationRuntime.Recording.SizeBound
import ConversationRuntime.Recording.WindowTiling
import ConversationRuntime.Recording.PairWindow
import ConversationRuntime.Voice.PlaybackReports
import ConversationRuntime.Voice.FinalizationLaw
import ConversationRuntime.Voice.Utterances
import ConversationRuntime.Voice.AutomaticResponses
import ConversationRuntime.Voice.SegmentLedger
import ConversationRuntime.Voice.StaleTexts
import ConversationRuntime.Turns.CompletedHistory
import ConversationRuntime.Turns.Streaming
import ConversationRuntime.Turns.SyntheticIdentity
import ConversationRuntime.Turns.TextOutcome
import ConversationRuntime.Memory.SessionMemory
import ConversationRuntime.Memory.Signatures
import ConversationRuntime.Media.Isolation
import ConversationRuntime.Media.Loss
import ConversationRuntime.Media.RecognitionLoss
import ConversationRuntime.Media.Coverage
import ConversationRuntime.Media.PlaybackRuns
import ConversationRuntime.Sidecar.Input
import ConversationRuntime.Gateway.CaptureControls
import ConversationRuntime.Gateway.Framing
import ConversationRuntime.Gateway.VoiceStart
import ConversationRuntime.Gateway.Lanes
import ConversationRuntime.Recording.CaptureHealth
import ConversationRuntime.Recording.RecordCodec
import ConversationRuntime.Diarization.LocalSidecar
