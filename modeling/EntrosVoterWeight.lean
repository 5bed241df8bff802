import EntrosVoterWeight.Theory.Administration
import EntrosVoterWeight.Theory.Decision
import EntrosVoterWeight.Theory.Kinds
import EntrosVoterWeight.Theory.Isolation
import EntrosVoterWeight.Theory.Voters
import EntrosVoterWeight.Theory.Eligibility
import EntrosVoterWeight.Theory.Lifecycle
import EntrosVoterWeight.Theory.Ownership
import EntrosVoterWeight.Assumptions
import EntrosVoterWeight.Cluster
import EntrosVoterWeight.Theory.Weight
import EntrosVoterWeight.Theory.Shape
import EntrosVoterWeight.Layout
import EntrosVoterWeight.Program
import EntrosVoterWeight.Instructions.MaxVoterWeightRecord
import EntrosVoterWeight.Transition.Run
import EntrosVoterWeight.Transition.Machine
import EntrosVoterWeight.Theory.Register
import EntrosVoterWeight.Theory.Tally
import EntrosVoterWeight.Theory.Votes
import EntrosVoterWeight.Theory.Quorum
import EntrosVoterWeight.Theory.Order
import EntrosVoterWeight.Theory.Deposits
import EntrosVoterWeight.Wire.Entry
import EntrosVoterWeight.Wire.Client
import EntrosVoterWeight.Wire.Transaction
import EntrosVoterWeight.Wire.Requests
import EntrosVoterWeight.Wire.Answers
import EntrosVoterWeight.Wire.Mandates
import EntrosVoterWeight.Wire.Costs
import EntrosVoterWeight.Wire.Reader
import EntrosVoterWeight.Wire.Script
