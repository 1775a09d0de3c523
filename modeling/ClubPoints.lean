import ClubPoints.Main
import ClubPoints.Request.Serving
import ClubPoints.Sheet
import ClubPoints.Store.Columns
import ClubPoints.Document.Encoding
import ClubPoints.Store.Writing
import ClubPoints.Proofs.Owed
import ClubPoints.Proofs.LastCompletion
import ClubPoints.Proofs.RoundTrip
import ClubPoints.Proofs.Deserved
import ClubPoints.Proofs.Judgeable
import ClubPoints.Proofs.Preview
import ClubPoints.Proofs.Rejection
import ClubPoints.Proofs.Shuffling
import ClubPoints.Proofs.Siblings
import ClubPoints.Proofs.Counting
import ClubPoints.Proofs.StoredRules
import ClubPoints.Proofs.Drafts
import ClubPoints.Proofs.Multiplier
import ClubPoints.Proofs.Reordering
import ClubPoints.Proofs.Pointwise
import ClubPoints.Proofs.Undeclared
import ClubPoints.Proofs.ClubDefault
import ClubPoints.Proofs.WellFormed
import ClubPoints.Proofs.Referenced
import ClubPoints.Proofs.Names
import ClubPoints.Proofs.Leaderboard
import ClubPoints.Proofs.Seeding
import ClubPoints.Proofs.Captions
import ClubPoints.Proofs.OtherTeams
import ClubPoints.Proofs.Room
import ClubPoints.Proofs.Interference
import ClubPoints.Proofs.Notes
import ClubPoints.Proofs.Meaning
import ClubPoints.Proofs.RuleTester
import ClubPoints.Proofs.Unordered
import ClubPoints.Proofs.Nearest
import ClubPoints.Proofs.WholeNumbers
import ClubPoints.Proofs.Comparison
import ClubPoints.Proofs.FreshKeys
import ClubPoints.Proofs.PointRange
import ClubPoints.Proofs.PositionCodes
import ClubPoints.Proofs.Listing
