import Bytebase.Go.Basic
import Bytebase.Go.Utf8
import Bytebase.Go.Path
import Bytebase.Go.Map
import Bytebase.Go.Sort.Slice
import Bytebase.Go.Sort.Insertion
import Bytebase.Go.Sort.Heap
import Bytebase.Go.Sort.Partition
import Bytebase.Go.Sort.Pivot
import Bytebase.Go.Sort.Pdqsort
import Bytebase.Go.Proc
import Bytebase.Api
import Bytebase.Webhook.World
import Bytebase.Webhook.Filter
import Bytebase.Webhook.FileInfo
import Bytebase.Webhook.Issue
import Bytebase.Webhook.Push
import Bytebase.Xml
import Bytebase.WorkflowCommand
import Bytebase.Webhook.Report
import Bytebase.Webhook.SqlReview
import Bytebase.Webhook.Handler
import Bytebase.Auth.Jwt
import Bytebase.Auth.Middleware
import Bytebase.Project.Store
import Bytebase.Project.Repository
import Bytebase.Project.Sheet
import Bytebase.Project.SqlReviewSetup
import Bytebase.Project.SqlReviewCI
import Bytebase.Project.Interleaving
import Bytebase.Frontend.DataSource
import Bytebase.Frontend.UIEditor
