import SpanQuest.Logging
import SpanQuest.Main
import SpanQuest.Proofs.Backend.CalledAddress
import SpanQuest.Proofs.Backend.ErrorResponse
import SpanQuest.Proofs.CommandLine.Agreement
import SpanQuest.Proofs.Desk.Backends
import SpanQuest.Proofs.Desk.Call
import SpanQuest.Proofs.Desk.LateAnswer
import SpanQuest.Proofs.Desk.NoQuestion
import SpanQuest.Proofs.Desk.Posting
import SpanQuest.Proofs.Desk.SearchWindow
import SpanQuest.Proofs.Desk.Secrecy
import SpanQuest.Proofs.Desk.SpoiledHistory
import SpanQuest.Proofs.Desk.Stage
import SpanQuest.Proofs.Environment.EmptyVariable
import SpanQuest.Proofs.Prompt.Embedding
import SpanQuest.Proofs.Prompt.Validation
import SpanQuest.Proofs.Query.Fenced
import SpanQuest.Proofs.Query.Located
import SpanQuest.Proofs.Query.Unparsable
import SpanQuest.Proofs.Search.Passage
import SpanQuest.Proofs.Storage.HistoryRun
import SpanQuest.Proofs.Storage.SpoiledFile
import SpanQuest.Proofs.Storage.TwoStores
import SpanQuest.Trouble.Excerpt
