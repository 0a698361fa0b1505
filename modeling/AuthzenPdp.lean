import AuthzenPdp.Context.Lossless
import AuthzenPdp.Context.Select
import AuthzenPdp.Context.Numeral
import AuthzenPdp.Context.Report
import AuthzenPdp.Request.Sound
import AuthzenPdp.Request.Complete
import AuthzenPdp.Request.Outcome
import AuthzenPdp.Request.Identity
import AuthzenPdp.Evaluate.Priority
import AuthzenPdp.Evaluate.Annot
import AuthzenPdp.Evaluate.Log
import AuthzenPdp.Evaluate.Deploy
import AuthzenPdp.Reload.Loop
import AuthzenPdp.Reload.Progress
import AuthzenPdp.Policies.Omission
import AuthzenPdp.Policies.Scope
