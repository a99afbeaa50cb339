import ConstraintSearch.Main
import ConstraintSearch.Proofs.Apart
import ConstraintSearch.Proofs.Puzzle
import ConstraintSearch.Proofs.Search.Solutions
import ConstraintSearch.Proofs.Search.Stack
import ConstraintSearch.Proofs.Search.Coherence
import ConstraintSearch.Proofs.Sudoku.Checker
import ConstraintSearch.Proofs.Sudoku.Encoding
import ConstraintSearch.Proofs.Sudoku.Solving
import ConstraintSearch.Proofs.Colouring.Adjacency
import ConstraintSearch.Proofs.Colouring.Building
import ConstraintSearch.Proofs.Colouring.Solving
import ConstraintSearch.Proofs.Search.FailureCost
import ConstraintSearch.Proofs.Queens.Placement
import ConstraintSearch.Proofs.Queens.Solving
import ConstraintSearch.Proofs.Chance.Shuffle
import ConstraintSearch.Proofs.Sudoku.FullGrid
import ConstraintSearch.Proofs.History
import ConstraintSearch.Proofs.Sudoku.Carving
import ConstraintSearch.Proofs.Sudoku.History
import ConstraintSearch.Proofs.Sudoku.OtherReports
import ConstraintSearch.Proofs.Search.Pausing
import ConstraintSearch.Proofs.Search.Domains
import ConstraintSearch.Proofs.Stepping
import ConstraintSearch.Proofs.InPlace
import ConstraintSearch.Proofs.Search.Memory
import ConstraintSearch.Proofs.Forgetting
import ConstraintSearch.Proofs.Colouring.History
import ConstraintSearch.Proofs.Independence
import ConstraintSearch.Proofs.Binary64.Rounding
import ConstraintSearch.Proofs.Binary64.Arithmetic
import ConstraintSearch.Proofs.Chance.Within
import ConstraintSearch.Proofs.Colouring.Generating
import ConstraintSearch.Proofs.Search.Account
import ConstraintSearch.Proofs.Search.Bound
import ConstraintSearch.Proofs.Search.Pruning
import ConstraintSearch.Proofs.Search.Hints
import ConstraintSearch.Proofs.Colouring.Listing
import ConstraintSearch.Proofs.Colouring.Operations
import ConstraintSearch.Proofs.Colouring.Checking
import ConstraintSearch.Proofs.Colouring.Rebuilding
import ConstraintSearch.Proofs.Resetting
import ConstraintSearch.Proofs.Search.Greedy
import ConstraintSearch.Proofs.Colouring.Greedy
import ConstraintSearch.Proofs.Checkers
import ConstraintSearch.Proofs.Sudoku.Text
import ConstraintSearch.Proofs.Sudoku.Editing
import ConstraintSearch.Proofs.Search.Repetition
import ConstraintSearch.Proofs.Sudoku.RoundTrip
import ConstraintSearch.Proofs.Refusals
