import ContentBlocking.Main
import ContentBlocking.Tab.Listener
import ContentBlocking.Proofs.Json.Document
import ContentBlocking.Proofs.Json.Rereading
import ContentBlocking.Proofs.Json.Records
import ContentBlocking.Proofs.Rule.Reading
import ContentBlocking.Proofs.Rule.Synthesis
import ContentBlocking.Proofs.Disk.Confined
import ContentBlocking.Proofs.Disk.FileName
import ContentBlocking.Proofs.Rule.Store
import ContentBlocking.Proofs.Rule.Mirror
import ContentBlocking.Proofs.Rule.Verdict
import ContentBlocking.Proofs.Rule.NormalForm
import ContentBlocking.Proofs.Compiler.Contents
import ContentBlocking.Proofs.Compiler.Passes
import ContentBlocking.Proofs.Blocker.Interleaving
import ContentBlocking.Proofs.Blocker.Classification
import ContentBlocking.Proofs.Compiler.Settling
import ContentBlocking.Proofs.Compiler.Releases
import ContentBlocking.Proofs.Page.Stats
import ContentBlocking.Proofs.Url.Scheme
import ContentBlocking.Proofs.Url.Authority
import ContentBlocking.Proofs.Url.Scan
import ContentBlocking.Proofs.Compiler.Memory
import ContentBlocking.Proofs.Compiler.Startup
import ContentBlocking.Proofs.Cli.Agreement
import ContentBlocking.Proofs.Tab.PageLoads
import ContentBlocking.Proofs.Site
import ContentBlocking.Proofs.Site.Recency
import ContentBlocking.Proofs.Site.Builtin
import ContentBlocking.Proofs.Tracker.Table
import ContentBlocking.Proofs.AllowList.Addressable
import ContentBlocking.Proofs.Persistence
import ContentBlocking.Proofs.Tab.Requests
import ContentBlocking.Proofs.MarkerStore
import ContentBlocking.Proofs.Compiler.Completion
import ContentBlocking.Proofs.Compiler.Purging
import ContentBlocking.Proofs.Compiler.Rebuild
import ContentBlocking.Proofs.Page.Summary
import ContentBlocking.Proofs.Tab.Rewriting
import ContentBlocking.Proofs.Json.Unread
import ContentBlocking.Proofs.Rule.Buildable
import ContentBlocking.Proofs.Compiler.Defects
import ContentBlocking.Proofs.Blocker.Address
