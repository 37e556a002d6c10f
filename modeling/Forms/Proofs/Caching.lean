import Forms.Choice.Service
import Forms.Proofs.Entries
import Forms.Proofs.Signatures

/-!
# Choices from the cache

The cache keeps choices under the signature of a request, which says nothing about the headers of
the request or about how rows become choices.  What is kept are choices, not rows: of all sources
with one signature, the first one that was answered decides how the rows are read, until the cache
is emptied.
-/

namespace Forms

/-! ## Rows as a source reads them -/

namespace ChoiceSource

/-- The choices of a source as a fetcher answers now; none when it fails. -/
def fetched (fetcher : Fetcher) (source : ChoiceSource) : List Choice :=
  match fetcher source with
  | .ok rows => source.choicesOfRows rows
  | .error _ => []

/-- Rows are read by the two mapped members alone. -/
theorem choicesOfRows_congr {left right : ChoiceSource}
    (hvalue : left.valueField = right.valueField) (hlabel : left.labelField = right.labelField)
    (rows : Json) :
    left.choicesOfRows rows = right.choicesOfRows rows := by
  have hrow : left.choiceOfRow = right.choiceOfRow := by
    funext row
    rw [choiceOfRow, choiceOfRow, hvalue, hlabel]
  cases rows <;> simp only [choicesOfRows, hrow]

end ChoiceSource

/-! ## Sequences of requests -/

/-- The answers depend on the address alone. -/
def Fetcher.ByAddress (fetcher : Fetcher) : Prop :=
  ∀ left right : ChoiceSource, left.url = right.url → fetcher left = fetcher right

theorem RowTable.fetcher_byAddress (table : RowTable) : Fetcher.ByAddress table.fetcher := by
  intro left right hurl
  simp only [fetcher, hurl]

inductive ChoiceRequest where
  | load (source : ChoiceSource)
  | clear

namespace ChoiceService

/-- The sources that have been answered, after one more request. -/
def answer (fetcher : Fetcher) (sources : List ChoiceSource) : ChoiceRequest → List ChoiceSource
  | .load source =>
    match fetcher source with
    | .ok _ => sources ++ [source]
    | .error _ => sources
  | .clear => []

/-- The sources that have been answered since the cache was emptied, in order. -/
def answered (fetcher : Fetcher) (requests : List ChoiceRequest) : List ChoiceSource :=
  requests.foldl (answer fetcher) []

/-- The first of several sources that has the signature. -/
def firstOf? (sources : List ChoiceSource) (signature : String) : Option ChoiceSource :=
  sources.find? fun source => source.signature == signature

/-- The source that decides how rows are read: the first one of the same signature that has been
answered, or the source itself. -/
def deciding (sources : List ChoiceSource) (source : ChoiceSource) : ChoiceSource :=
  (firstOf? sources source.signature).getD source

theorem signature_of_firstOf? {sources : List ChoiceSource} {signature : String}
    {source : ChoiceSource} (hfirst : firstOf? sources signature = some source) :
    source.signature = signature := by
  simpa using List.find?_some hfirst

theorem firstOf?_append_singleton (sources : List ChoiceSource) (source : ChoiceSource)
    (signature : String) :
    firstOf? (sources ++ [source]) signature =
      (firstOf? sources signature).or
        (if signature = source.signature then some source else none) := by
  rw [firstOf?, List.find?_append, List.find?_singleton]
  by_cases hsame : signature = source.signature
  · simp [firstOf?, hsame]
  · simp [firstOf?, hsame, Ne.symm hsame]

theorem url_deciding (sources : List ChoiceSource) (source : ChoiceSource) :
    (deciding sources source).url = source.url := by
  cases hfirst : firstOf? sources source.signature with
  | some earlier =>
      rw [deciding, hfirst]
      exact ChoiceSource.url_eq_of_signature_eq (signature_of_firstOf? hfirst)
  | none => rw [deciding, hfirst, Option.getD_none]

/-- A service with an empty cache in memory. -/
def inMemory (seconds : UInt32) : ChoiceService ChoiceCache.Memory :=
  ⟨some ChoiceCache.memory, seconds, [], 0⟩

def withoutCache {State : Type} (service : ChoiceService State) : ChoiceService State :=
  { service with cache := none }

def serve {State : Type} (fetcher : Fetcher) (service : ChoiceService State) :
    ChoiceRequest → ChoiceService State
  | .load source => (service.load fetcher source).2
  | .clear =>
    match service.clear with
    | .ok cleared => cleared
    | .error _ => service

def serveAll {State : Type} (fetcher : Fetcher) (service : ChoiceService State)
    (requests : List ChoiceRequest) : ChoiceService State :=
  requests.foldl (serve fetcher) service

theorem fetch_fst {State : Type} (service : ChoiceService State) (fetcher : Fetcher)
    (source : ChoiceSource) : (service.fetch fetcher source).1 = source.fetched fetcher := by
  cases hrows : fetcher source <;> simp only [fetch, ChoiceSource.fetched, hrows]

theorem load_withoutCache {State : Type} (service : ChoiceService State) (fetcher : Fetcher)
    (source : ChoiceSource) :
    (service.withoutCache.load fetcher source).1 = source.fetched fetcher :=
  fetch_fst service.withoutCache fetcher source

/-- The service remembers choices in memory, and for some time. -/
structure InMemory (service : ChoiceService ChoiceCache.Memory) : Prop where
  cache : service.cache = some ChoiceCache.memory
  seconds : service.timeToLive ≠ 0

theorem inMemory_inMemory {seconds : UInt32} (hseconds : seconds ≠ 0) :
    (inMemory seconds).InMemory := ⟨rfl, hseconds⟩

namespace InMemory

variable {service : ChoiceService ChoiceCache.Memory}

/-- A load is answered from the cache, or else makes one fetch, of which only rows are remembered. -/
theorem load_eq (h : service.InMemory) (fetcher : Fetcher) (source : ChoiceSource) :
    service.load fetcher source =
      match service.held.get? source.signature, fetcher source with
      | some choices, _ => (choices, service)
      | none, .ok rows =>
        (source.choicesOfRows rows,
          { service with
            fetches := service.fetches + 1
            held := service.held.insert source.signature (source.choicesOfRows rows) })
      | none, .error _ => ([], { service with fetches := service.fetches + 1 }) := by
  have hremembered : service.remembered? source.signature =
      service.held.get? source.signature := by
    rw [remembered?, h.cache]
    rfl
  rw [load, hremembered]
  cases service.held.get? source.signature with
  | some choices => rfl
  | none =>
      cases hrows : fetcher source with
      | error failure => simp only [fetch, hrows]
      | ok rows =>
          simp only [fetch, hrows, remember, h.cache, ChoiceCache.memory, ChoiceCache.Memory.set,
            if_neg h.seconds]

theorem clear_eq (h : service.InMemory) : service.clear = .ok { service with held := [] } := by
  rw [clear, h.cache]
  rfl

end InMemory

/-- The cache holds choices of the sources that have been answered, the first one of each
signature. -/
structure Remembers (fetcher : Fetcher) (service : ChoiceService ChoiceCache.Memory)
    (sources : List ChoiceSource) : Prop extends service.InMemory where
  held : ∀ signature, service.held.get? signature =
    (firstOf? sources signature).map (ChoiceSource.fetched fetcher)

namespace Remembers

variable {fetcher : Fetcher} {service : ChoiceService ChoiceCache.Memory}
variable {sources : List ChoiceSource}

/-- What is loaded is what the deciding source stands for. -/
theorem load_fst (h : Remembers fetcher service sources) (source : ChoiceSource) :
    (service.load fetcher source).1 = (deciding sources source).fetched fetcher := by
  rw [h.load_eq, h.held, deciding]
  cases firstOf? sources source.signature with
  | some earlier => rfl
  | none =>
      rw [Option.getD_none, ChoiceSource.fetched]
      cases fetcher source <;> rfl

/-- A source whose signature has been answered already changes nothing. -/
theorem hit (h : Remembers fetcher service sources) {source earlier : ChoiceSource}
    (hfirst : firstOf? sources source.signature = some earlier) :
    Remembers fetcher service (answer fetcher sources (.load source)) := by
  simp only [answer]
  split
  · refine ⟨h.toInMemory, fun signature => ?_⟩
    rw [h.held, firstOf?_append_singleton]
    by_cases hsame : signature = source.signature
    · rw [hsame, hfirst, Option.some_or]
    · rw [if_neg hsame, Option.or_none]
  · exact h

/-- Any other source is remembered when it is answered. -/
theorem miss (h : Remembers fetcher service sources) {source : ChoiceSource}
    (hnew : firstOf? sources source.signature = none) :
    Remembers fetcher (service.load fetcher source).2 (answer fetcher sources (.load source)) := by
  rw [h.load_eq, h.held, hnew, answer]
  cases hrows : fetcher source with
  | error failure => exact ⟨⟨h.cache, h.seconds⟩, h.held⟩
  | ok rows =>
      have hchoices : source.fetched fetcher = source.choicesOfRows rows := by
        rw [ChoiceSource.fetched, hrows]
      refine ⟨⟨h.cache, h.seconds⟩, fun signature => ?_⟩
      rw [Option.map_none, Entries.get?_insert, h.held, firstOf?_append_singleton]
      by_cases hsame : signature = source.signature
      · rw [hsame, hnew, if_pos rfl, if_pos rfl, Option.none_or, Option.map_some, hchoices]
      · rw [if_neg hsame, if_neg hsame, Option.or_none]

theorem serve (h : Remembers fetcher service sources) (request : ChoiceRequest) :
    Remembers fetcher (service.serve fetcher request) (answer fetcher sources request) := by
  cases request with
  | load source =>
      rw [ChoiceService.serve]
      cases hfirst : firstOf? sources source.signature with
      | some earlier =>
          rw [h.load_eq, h.held, hfirst]
          exact h.hit hfirst
      | none => exact h.miss hfirst
  | clear =>
      simp only [ChoiceService.serve, h.clear_eq]
      exact ⟨⟨h.cache, h.seconds⟩, fun _ => rfl⟩

theorem serveAll (h : Remembers fetcher service sources) (requests : List ChoiceRequest) :
    Remembers fetcher (service.serveAll fetcher requests)
      (requests.foldl (answer fetcher) sources) := by
  induction requests generalizing service sources with
  | nil => exact h
  | cons request requests ih => exact ih (h.serve request)

end Remembers

theorem remembers_inMemory (fetcher : Fetcher) {seconds : UInt32} (hseconds : seconds ≠ 0) :
    Remembers fetcher (inMemory seconds) [] :=
  ⟨inMemory_inMemory hseconds, fun _ => rfl⟩

/-- After any requests, a load gives the rows of the address as the deciding source reads them.
That is what the service gives without its cache when the deciding source reads rows alike, whatever
else was loaded. -/
theorem load_serveAll {fetcher : Fetcher} (hfetcher : fetcher.ByAddress) {seconds : UInt32}
    (hseconds : seconds ≠ 0) (requests : List ChoiceRequest) (source : ChoiceSource) :
    (((inMemory seconds).serveAll fetcher requests).load fetcher source).1 =
        (match fetcher source with
          | .ok rows => (deciding (answered fetcher requests) source).choicesOfRows rows
          | .error _ => []) ∧
      ((deciding (answered fetcher requests) source).valueField = source.valueField →
        (deciding (answered fetcher requests) source).labelField = source.labelField →
        (((inMemory seconds).serveAll fetcher requests).load fetcher source).1 =
          (((inMemory seconds).serveAll fetcher requests).withoutCache.load fetcher source).1) := by
  have hremembers := (remembers_inMemory fetcher hseconds).serveAll requests
  have hload : (((inMemory seconds).serveAll fetcher requests).load fetcher source).1 =
      (deciding (answered fetcher requests) source).fetched fetcher :=
    hremembers.load_fst source
  -- A fetcher cannot tell the deciding source from the one that is loaded.
  have hrows := hfetcher _ _ (url_deciding (answered fetcher requests) source)
  constructor
  · rw [hload, ChoiceSource.fetched, hrows]
  · intro hvalue hlabel
    calc
      (((inMemory seconds).serveAll fetcher requests).load fetcher source).1 =
          (deciding (answered fetcher requests) source).fetched fetcher := hload
      _ = source.fetched fetcher := by
        rw [ChoiceSource.fetched, ChoiceSource.fetched, hrows]
        cases fetcher source with
        | ok rows => exact ChoiceSource.choicesOfRows_congr hvalue hlabel rows
        | error failure => rfl
      _ = _ := (load_withoutCache _ fetcher source).symm

/-- One row with two texts that may label it. -/
def people : RowTable :=
  [("people", .array
    [.object [("id", .string "7"), ("name", .string "Ada"), ("nick", .string "A.")]])]

/-- The people, labelled by the given member. -/
def peopleBy (headers : Option (Entries String)) (labelField : Option String) : ChoiceSource :=
  ⟨⟨"people", by decide⟩, none, headers, none, none, labelField⟩

/-- A source with other headers gets what it would get without the cache. -/
theorem load_serveAll_people :
    (((inMemory 300).serveAll people.fetcher [.load (peopleBy none none)]).load people.fetcher
        (peopleBy (some [("Accept", "text/csv")]) none)).1 =
      (((inMemory 300).serveAll people.fetcher
        [.load (peopleBy none none)]).withoutCache.load people.fetcher
          (peopleBy (some [("Accept", "text/csv")]) none)).1 :=
  (load_serveAll people.fetcher_byAddress (by decide) [.load (peopleBy none none)]
    (peopleBy (some [("Accept", "text/csv")]) none)).2 (by decide) (by decide)

/-- A source that labels rows otherwise gets the labels of the source before it. -/
theorem not_transparent :
    ¬∀ (fetcher : Fetcher), fetcher.ByAddress → ∀ (seconds : UInt32), seconds ≠ 0 →
      ∀ (requests : List ChoiceRequest) (source : ChoiceSource),
        (((inMemory seconds).serveAll fetcher requests).load fetcher source).1 =
          (((inMemory seconds).serveAll fetcher requests).withoutCache.load fetcher source).1 := by
  intro htransparent
  have hsame := htransparent people.fetcher people.fetcher_byAddress 300 (by decide)
    [.load (peopleBy none (some "name"))] (peopleBy none (some "nick"))
  revert hsame
  decide

end ChoiceService

end Forms
