import Forms.Choice.Cache
import Forms.Schema.Written

/-!
# Loading choices

A service loads the choices of a source: from its cache when they are there, and by fetching rows
otherwise.  A fetch that fails gives no choices.  A cache that fails is passed by.
-/

namespace Forms

/-- What answers a request at the moment. -/
abbrev Fetcher := ChoiceSource → Outcome Json

structure ChoiceService (State : Type) where
  cache : Option (ChoiceCache State)
  /-- How long choices stay in the cache, in seconds. -/
  timeToLive : UInt32
  /-- What the cache holds. -/
  held : State
  /-- How often rows have been fetched. -/
  fetches : Nat

namespace ChoiceService

variable {State : Type}

def defaultTimeToLive : UInt32 := 300

/-- What the cache has for a signature; nothing when there is no cache or it fails. -/
def remembered? (service : ChoiceService State) (signature : String) : Option (List Choice) :=
  match service.cache with
  | none => none
  | some cache =>
    match cache.get service.held signature with
    | .ok choices => choices
    | .error _ => none

/-- The service after choices have been written to its cache. -/
def remember (service : ChoiceService State) (signature : String) (choices : List Choice) :
    ChoiceService State :=
  match service.cache with
  | none => service
  | some cache =>
    match cache.set service.held signature choices service.timeToLive with
    | .ok held => { service with held := held }
    | .error _ => service

/-- Fetches rows, and remembers the choices they stand for. -/
def fetch (service : ChoiceService State) (fetcher : Fetcher) (source : ChoiceSource) :
    List Choice × ChoiceService State :=
  let service := { service with fetches := service.fetches + 1 }
  match fetcher source with
  | .error _ => ([], service)
  | .ok rows =>
    let choices := source.choicesOfRows rows
    (choices, service.remember source.signature choices)

/-- The choices of a source. -/
def load (service : ChoiceService State) (fetcher : Fetcher) (source : ChoiceSource) :
    List Choice × ChoiceService State :=
  match service.remembered? source.signature with
  | some choices => (choices, service)
  | none => service.fetch fetcher source

/-- Loads the choices of one node into those that have been loaded by node. -/
def loadNode (fetcher : Fetcher) (loaded : Entries (List Choice) × ChoiceService State)
    (node : Node) :
    Entries (List Choice) × ChoiceService State :=
  match node.body with
  | .field (.select _ _ (some source)) _ =>
    let (choices, service) := loaded.2.load fetcher source
    (loaded.1.insert node.id.text choices, service)
  | _ => loaded

/-- The choices of all select fields that have a source, by node. -/
def resolve (service : ChoiceService State) (fetcher : Fetcher) (schema : Schema) :
    Entries (List Choice) × ChoiceService State :=
  schema.walk.foldl (loadNode fetcher) ([], service)

/-- Empties the cache. -/
def clear (service : ChoiceService State) : Outcome (ChoiceService State) :=
  match service.cache with
  | none => .ok service
  | some cache => (cache.clear service.held).map fun held => { service with held := held }

end ChoiceService

/-- Rows that are known beforehand, by address. -/
abbrev RowTable := Entries Json

namespace RowTable

def ofText (text : String) : Outcome RowTable := Decode.fromText .whole Decode.members text

def fetcher (table : RowTable) : Fetcher := fun source =>
  match table.get? source.url.text with
  | some rows => .ok rows
  | none => .error (.rowsNotFound source.url.text)

end RowTable

/-- Choices by node, as JSON. -/
def choicesByNodeJson (choices : Entries (List Choice)) : Json :=
  .object (choices.map fun (id, choices) => (id, choicesJson choices))

end Forms
