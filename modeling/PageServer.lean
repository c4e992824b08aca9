import PageServer.Bundled
import PageServer.Logging.Console
import PageServer.Main
import PageServer.Service.Run
import PageServer.Service.Startup
import PageServer.Settings.Sources
import PageServer.View.ModelAndView
import PageServer.Proofs.Files.Lookup
import PageServer.Proofs.Files.PathName
import PageServer.Proofs.Files.Text
import PageServer.Proofs.Http.Host
import PageServer.Proofs.Http.UrlPath
import PageServer.Proofs.Limiter.Admissions
import PageServer.Proofs.Limiter.Cleanup
import PageServer.Proofs.Limiter.Forgetting
import PageServer.Proofs.Limiter.Guard
import PageServer.Proofs.Limiter.Ledger
import PageServer.Proofs.Limiter.Retry
import PageServer.Proofs.Limiter.Times
import PageServer.Proofs.Limiter.Window
import PageServer.Proofs.Logging.Output
import PageServer.Proofs.Service.AccessEntry
import PageServer.Proofs.Service.AccessLog
import PageServer.Proofs.Service.Admission
import PageServer.Proofs.Service.Discretion
import PageServer.Proofs.Service.Exemption
import PageServer.Proofs.Service.Failures
import PageServer.Proofs.Service.Fields
import PageServer.Proofs.Service.HealthAnswer
import PageServer.Proofs.Service.HealthReport
import PageServer.Proofs.Service.Isolation
import PageServer.Proofs.Service.Kept
import PageServer.Proofs.Service.OtherSites
import PageServer.Proofs.Service.PageAnswer
import PageServer.Proofs.Service.PageMethods
import PageServer.Proofs.Service.RequestId
import PageServer.Proofs.Service.Routing
import PageServer.Proofs.Service.ServerErrors
import PageServer.Proofs.Service.Startup
import PageServer.Proofs.Service.StartupCompletes
import PageServer.Proofs.Service.UnlistedPaths
import PageServer.Proofs.Service.ViewHeader
import PageServer.Proofs.Settings.Assignments
import PageServer.Proofs.Settings.Fields
import PageServer.Proofs.Settings.Origins
import PageServer.Proofs.Settings.Resolution
import PageServer.Proofs.Settings.RoundTrip
import PageServer.Proofs.Settings.Sources
import PageServer.Proofs.Template.Cache
import PageServer.Proofs.Template.Calls
import PageServer.Proofs.Template.Plain
import PageServer.Proofs.Template.Questions
import PageServer.Proofs.Template.Reaching
import PageServer.Proofs.Template.Steady
import PageServer.Proofs.Template.Work
import PageServer.Proofs.Text.Pieces
import PageServer.Proofs.Text.Trim
import PageServer.Proofs.View.Bundled
import PageServer.Proofs.View.Confinement
import PageServer.Proofs.View.CurrentPage
import PageServer.Proofs.View.Health
import PageServer.Proofs.View.Lookup
import PageServer.Proofs.View.Markup
import PageServer.Proofs.View.Outcomes
import PageServer.Proofs.View.Rendering
import PageServer.Proofs.View.StartupCheck
import PageServer.Proofs.Logging.Threshold
import PageServer.Proofs.Fault.CallersContext
import PageServer.Proofs.View.ViewName
