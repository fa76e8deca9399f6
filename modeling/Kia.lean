import Kia.Basic
import Kia.Config
import Kia.Auth
import Kia.Conversation
import Kia.Lockout
import Kia.Session
import Kia.PrivilegeDrop
import Kia.Context
import Kia.Controller
import Kia.Outcome
import Kia.Authorization
import Kia.Secret
import Kia.LockoutWindow
import Kia.Main
import Kia.LineReader
import Kia.ConfigFile
import Kia.Discovery
import Kia.Terminal
import Kia.Autologin
import Kia.SessionMenu
import Kia.Logger
import Kia.Progress
import Kia.RoundTrip
import Kia.ExitStatus
import Kia.TypedLogin
import Kia.LoopLockout
