import IrodsClient.LocalFile
import IrodsClient.Schedule
import IrodsClient.Partition
import IrodsClient.Download.Task
import IrodsClient.Download.Run
import IrodsClient.Download.Resume
import IrodsClient.Download.Progress
import IrodsClient.Download.Journal
import IrodsClient.Download.Liveness
import IrodsClient.Upload.Task
import IrodsClient.Upload.Run
import IrodsClient.Upload.Parallel
import IrodsClient.Upload.Progress
import IrodsClient.Upload.Liveness
import IrodsClient.Transfers
import IrodsClient.Session.Pool
import IrodsClient.Session.Acquire
import IrodsClient.Session.Multi
import IrodsClient.Session.Shares
import IrodsClient.Session.Lifecycle
import IrodsClient.Download.Session
import IrodsClient.Serial
