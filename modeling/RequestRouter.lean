import RequestRouter.Main
import RequestRouter.Proofs.Pattern.Anchored
import RequestRouter.Proofs.Pattern.Cutting
import RequestRouter.Proofs.Pattern.Extraction
import RequestRouter.Public.Names
import RequestRouter.Session.Trial
import RequestRouter.Value.Body
import RequestRouter.Proofs.World.Laws
import RequestRouter.Proofs.World.Evolution
import RequestRouter.Proofs.World.Hints
import RequestRouter.Proofs.World.Handlers
import RequestRouter.Proofs.World.Freezing
import RequestRouter.Proofs.Pattern.Faults
import RequestRouter.Proofs.World.FirstMatch
import RequestRouter.Proofs.World.RequestFaults
import RequestRouter.Proofs.World.Programs
import RequestRouter.Proofs.Call.Binding
import RequestRouter.Proofs.Call.Resolution
import RequestRouter.Proofs.Call.Bound
import RequestRouter.Proofs.Call.Stages
import RequestRouter.Proofs.Call.Invocations
import RequestRouter.Proofs.Matching.Course
import RequestRouter.Proofs.Pattern.Filling
import RequestRouter.Proofs.Pattern.Written
import RequestRouter.Proofs.Pattern.Template
import RequestRouter.Proofs.Pattern.RoundTrip
import RequestRouter.Proofs.Matching.Moved
import RequestRouter.Proofs.Reading.Moved
import RequestRouter.Proofs.Pattern.Leading
import RequestRouter.Proofs.Pattern.Behind
import RequestRouter.Proofs.Call.Awaiting
import RequestRouter.Proofs.Call.Questions
import RequestRouter.Proofs.Pattern.Shape
import RequestRouter.Proofs.Pattern.Scan
import RequestRouter.Proofs.Pattern.Scanning
import RequestRouter.Proofs.Pattern.Nameless
import RequestRouter.Proofs.Pattern.Strict
import RequestRouter.Proofs.Call.References
import RequestRouter.Proofs.World.Services
import RequestRouter.Proofs.Pattern.Joining
import RequestRouter.Proofs.World.Nesting
import RequestRouter.Proofs.Pattern.HandOut
import RequestRouter.Proofs.Value.Unions
import RequestRouter.Proofs.Call.TextSlots
import RequestRouter.Proofs.World.Controllers
import RequestRouter.Proofs.Pattern.Outcomes
import RequestRouter.Proofs.CommandLine.Targets
