import FilterChain.Error
import FilterChain.Value

/-!
# Functions and contexts

A context is the store that all chains of an evaluation share.  The request that an
embedder supplies is stored in it under a reserved name.

A function takes the context, the previous value and its arguments, and gives a result and
the context behind it, also where the result is an error.  An asynchronous function may wait
before it gives its result; the chain waits for it, so that both kinds act alike.
-/

namespace FilterChain

/-! ## Contexts -/

/-- The name under which the request is stored. -/
def requestKey : String := "_req"

abbrev Context := Dictionary Value

namespace Context

/-- A context that holds a request only. -/
def ofRequest (request : Value) : Context :=
  Dictionary.empty.insert requestKey request

def request? (context : Context) : Option Value :=
  context.find? requestKey

def dropRequest (context : Context) : Context :=
  context.erase requestKey

/-- All names and values as one object. -/
def toValue (context : Context) : Value :=
  .object context.entries

end Context

/-! ## Functions -/

/-- A result and the context behind it. -/
structure Outcome (α : Type) where
  result : Except FilterError α
  context : Context

abbrev Action := Context → Value → List Value → Outcome Value

inductive Function
  | sync (action : Action)
  | async (action : Action)

namespace Function

def isAsync : Function → Bool
  | sync _ => false
  | async _ => true

def call : Function → Action
  | sync action | async action => action

/-- A function that neither reads nor changes the context. -/
def ofValues (f : Value → List Value → Except FilterError Value) : Function :=
  .sync fun context previous arguments => ⟨f previous arguments, context⟩

/-- A function that only reads the context. -/
def ofContext (f : Context → Except FilterError Value) : Function :=
  .sync fun context _ _ => ⟨f context, context⟩

end Function

namespace Outcome

/-- Goes on with a value, unless there was an error. -/
def andThen (outcome : Outcome α) (next : α → Context → Outcome β) : Outcome β :=
  match outcome.result with
  | .ok a => next a outcome.context
  | .error e => ⟨.error e, outcome.context⟩

def map (f : α → β) (outcome : Outcome α) : Outcome β :=
  ⟨outcome.result.map f, outcome.context⟩

end Outcome

end FilterChain
