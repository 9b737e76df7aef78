import DiceCup.Formula.Identifier
import DiceCup.Formula.Roll

/-!
# Sessions — a roll book and a cup

A roll book remembers the formula of every identifier that it has resolved, and so reads each at
most once.  Nothing ever leaves it.  It also counts how often it had to read one.  What a query
does to the book is decided when its identifier is looked up: it makes no difference on which cup a
call is run then, or whether it fails.

A session is what rolls by identifier need when nobody says otherwise: a roll book of its own and a
cup of its own, both new at the start.
-/

namespace DiceCup

/-! ## Roll books -/

structure BoundRoll where
  identifier : String
  formula : Formula
deriving DecidableEq, Repr

namespace BoundRoll

def call (bound : BoundRoll) (options : RollOptions) : RollM Outcome := bound.formula.invoke options

end BoundRoll

structure RollBook where
  /-- The resolved identifiers, the latest first. -/
  entries : List BoundRoll := []
  parseCount : Nat := 0
deriving DecidableEq, Repr

namespace RollBook

def find? (book : RollBook) (identifier : String) : Option BoundRoll :=
  book.entries.find? fun bound => bound.identifier = identifier

def isResolved (book : RollBook) (identifier : String) : Bool := (book.find? identifier).isSome

def size (book : RollBook) : Nat := book.entries.length

/-- Looks an identifier up and reads it at first sight; nothing if it is no roll identifier. -/
def resolve (book : RollBook) (identifier : String) : Option BoundRoll × RollBook :=
  match book.find? identifier with
  | some bound => (some bound, book)
  | none =>
    let book := { book with parseCount := book.parseCount + 1 }
    match Formula.ofIdentifier? identifier with
    | some formula =>
      let bound : BoundRoll := ⟨identifier, formula⟩
      (some bound, { book with entries := bound :: book.entries })
    | none => (none, book)

/-- Whether an identifier would resolve; it is not remembered. -/
def respondsTo (book : RollBook) (identifier : String) : Bool :=
  book.isResolved identifier || (Formula.ofIdentifier? identifier).isSome

def call (book : RollBook) (identifier : String) (options : RollOptions) :
    RollM Outcome × RollBook :=
  match book.resolve identifier with
  | (some bound, book) => (bound.call options, book)
  | (none, book) => (throw (.noSuchOperation identifier), book)

inductive Query where
  | resolve (identifier : String)
  | call (identifier : String) (options : RollOptions)
  | respondsTo (identifier : String)

def ask (book : RollBook) : Query → RollBook
  | .resolve identifier => (book.resolve identifier).2
  | .call identifier options => (book.call identifier options).2
  | .respondsTo _ => book

def after (book : RollBook) (queries : List Query) : RollBook := queries.foldl ask book

end RollBook

/-! ## Sessions -/

structure Session where
  book : RollBook
  cup : Cup

namespace Session

def start (entropy : Random.Entropy) : Session := ⟨{}, .fresh entropy⟩

def call (session : Session) (identifier : String) (options : RollOptions) :
    Except RollError Outcome × Session :=
  let (action, book) := session.book.call identifier options
  let (result, cup) := action.runOn session.cup
  (result, ⟨book, cup⟩)

def respondsTo (session : Session) (identifier : String) : Bool :=
  session.book.respondsTo identifier

end Session

end DiceCup
