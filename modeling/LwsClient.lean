import LwsClient.CString
import LwsClient.Digest
import LwsClient.Exec
import LwsClient.Connection
import LwsClient.Generate
import LwsClient.Interpret
import LwsClient.Service
import LwsClient.Acceptance
import LwsClient.Failure
import LwsClient.Transport
import LwsClient.Proxy
import LwsClient.Progress
import LwsClient.Negotiation
import LwsClient.Request
import LwsClient.Notification
import LwsClient.Decision
import LwsClient.Session
import LwsClient.Release
import LwsClient.Certificate
import LwsClient.Closing
import LwsClient.Causality
import LwsClient.Handshake
