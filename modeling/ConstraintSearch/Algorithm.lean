/-!
The search algorithms a user can ask for. Only one of them has a solver behind it; the others
are listed and described.
-/

namespace ConstraintSearch

inductive Algorithm where
  | backtracking
  | forwardChecking
  | arcConsistency
  | genetic
deriving DecidableEq, Inhabited

namespace Algorithm

def all : List Algorithm := [.backtracking, .forwardChecking, .arcConsistency, .genetic]

def index : Algorithm → Nat
  | .backtracking => 0
  | .forwardChecking => 1
  | .arcConsistency => 2
  | .genetic => 3

/-- The name in running text. -/
def name : Algorithm → String
  | .backtracking => "backtracking"
  | .forwardChecking => "forward checking"
  | .arcConsistency => "arc consistency"
  | .genetic => "genetic"

/-- The name in settings and data, without blanks. -/
def key : Algorithm → String
  | .backtracking => "backtracking"
  | .forwardChecking => "forward-checking"
  | .arcConsistency => "arc-consistency"
  | .genetic => "genetic"

/-- The name in diagnostics. -/
def label : Algorithm → String
  | .backtracking => "Backtracking"
  | .forwardChecking => "ForwardChecking"
  | .arcConsistency => "ArcConsistency"
  | .genetic => "Genetic"

def ofKey? (key : String) : Option Algorithm := all.find? fun a => a.key == key

def isImplemented : Algorithm → Bool
  | .backtracking => true
  | _ => false

def description : Algorithm → String
  | .backtracking =>
    "Depth-first search: assign, check against assigned neighbours, recurse, undo on failure."
  | .forwardChecking => "Backtracking that prunes neighbouring domains after each assignment."
  | .arcConsistency =>
    "AC-3 propagation: revise every arc until no domain shrinks, then search."
  | .genetic =>
    "Evolve a population of full assignments, scoring by number of violated constraints."

end Algorithm

end ConstraintSearch
