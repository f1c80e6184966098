import Ticketbus.Relational.Paging
import Ticketbus.Ticketing.PartialEvents

/-! The listings of events, page by page. A request makes two queries, one for the total and one for the page,
and ORDER BY names a single column that several events may agree on. -/
namespace Ticketbus.Ticketing
open Ticketbus.Concurrency Ticketbus.Relational

/-- The texts of the column `status`. -/
def EventStatus.text : EventStatus → String
  | .draft => "draft"
  | .pending => "pending"
  | .published => "published"
  | .rejected => "rejected"
  | .cancelled => "cancelled"

/-- WHERE and ORDER BY of a listing. -/
structure EventQuery where
  selects : EventRow → Bool
  key : EventRow → Time

namespace EventQuery

/-- WHERE status='published' ORDER BY start_at ASC -/
def published : EventQuery := ⟨fun row => row.event.status = .published,fun row => row.event.startAt⟩

/-- WHERE status='pending' ORDER BY created_at ASC -/
def pending : EventQuery := ⟨fun row => row.event.status = .pending,fun row => row.event.createdAt⟩

/-- WHERE ($1 = '' OR status = $1) ORDER BY created_at DESC -/
def withStatus (status : String) : EventQuery :=
  ⟨fun row => status = "" ∨ row.event.status.text = status,fun row => -row.event.createdAt⟩

variable (query : EventQuery) (db : Database)

def matching : List EventRow := db.events.rows.filter query.selects

/-- What the database does for one request: either query may fail or break off, and the order of events with
equal keys is its own choice. -/
structure Serving where
  counting : Fault
  listing : Listing query.key (query.matching db)
  reading : Fault

/-- The columns of the listings leave out the review. -/
def scanned (row : EventRow) : Event := {row.event with reviewedBy := none, reviewedAt := none}

/-- The body that the three listings of `EventRepo` share. -/
def list (serving : query.Serving db) (limit offset : Int) : Except DbError (List Event × Int) :=
  let total : Int :=
    match (Relational.query serving.counting () (.ok ((query.matching db).length : Int))).1 with
    | .ok total => total
    -- The error of `Scan` is dropped and `total` keeps its zero.
    | .error _ => 0
  -- A negative LIMIT or OFFSET is refused when the rows are read, and `rows.Err` is not asked.
  let page := if limit < 0 ∨ offset < 0 then [] else serving.listing.page limit.toNat offset.toNat
  match (stream serving.reading () page).1 with
  | .error error => .error error
  | .ok rows => .ok (rows.items.map scanned,total)

/-- The events that a walk over all pages is to list. -/
def items : List Event := (query.matching db).map scanned

end EventQuery

namespace EventRepo
variable (db : Database)

def listPublished (serving : EventQuery.published.Serving db) (limit offset : Int) : Except DbError (List Event × Int) :=
  EventQuery.published.list db serving limit offset

def listPending (serving : EventQuery.pending.Serving db) (limit offset : Int) : Except DbError (List Event × Int) :=
  EventQuery.pending.list db serving limit offset

def findAll (status : String) (serving : (EventQuery.withStatus status).Serving db) (limit offset : Int) :
    Except DbError (List Event × Int) :=
  (EventQuery.withStatus status).list db serving limit offset

end EventRepo

namespace EventService
variable (db : Database)

def listPublished (serving : EventQuery.published.Serving db) (limit offset : Int) : Except DbError (List Event × Int) :=
  EventRepo.listPublished db serving limit offset

def listPending (serving : EventQuery.pending.Serving db) (limit offset : Int) : Except DbError (List Event × Int) :=
  EventRepo.listPending db serving limit offset

def listAll (status : String) (serving : (EventQuery.withStatus status).Serving db) (limit offset : Int) :
    Except DbError (List Event × Int) :=
  EventRepo.findAll db status serving limit offset

end EventService

structure EventResponse where
  id : ID
  organizerID : ID
  title : String
  description : String
  venueName : String
  venueAddress : String
  venueCapacity : Int
  startAt : Time
  endAt : Time
  status : EventStatus
  createdAt : Time
  updatedAt : Time
  deriving DecidableEq, Repr

structure EventListResponse where
  events : List EventResponse
  total : Int
  deriving DecidableEq, Repr

structure ListingResponse where
  status : Nat
  body : Except String EventListResponse

def ListingResponse.page : ListingResponse → Option (List EventResponse × Int)
  | ⟨200,.ok list⟩ => some (list.events,list.total)
  | _ => none

namespace EventHandler

def eventResponse (event : Event) : EventResponse where
  id := event.id
  organizerID := event.organizerID
  title := event.title
  description := event.description
  venueName := event.venueName
  venueAddress := event.venueAddress
  venueCapacity := event.venueCapacity
  startAt := event.startAt
  endAt := event.endAt
  status := event.status
  createdAt := event.createdAt
  updatedAt := event.updatedAt

/-- A limit that is missing, malformed or not positive. -/
def pageLimit (limit : Int) : Int := if limit ≤ 0 then 20 else limit

def respond (message : String) : Except DbError (List Event × Int) → ListingResponse
  | .error _ => ⟨500,.error message⟩
  | .ok (events,total) => ⟨200,.ok ⟨events.map eventResponse,total⟩⟩

variable (db : Database)

/-- GET /events. Here and below `limit` and `offset` are what `Atoi` makes of the query string. -/
def listPublished (serving : EventQuery.published.Serving db) (limit offset : Int) : ListingResponse :=
  respond "failed to list events" (EventService.listPublished db serving (pageLimit limit) offset)

def listPending (serving : EventQuery.pending.Serving db) (limit offset : Int) : ListingResponse :=
  respond "failed to list pending events" (EventService.listPending db serving (pageLimit limit) offset)

def listAll (status : String) (serving : (EventQuery.withStatus status).Serving db) (limit offset : Int) :
    ListingResponse :=
  respond "failed to list events" (EventService.listAll db status serving (pageLimit limit) offset)

end EventHandler

/-- The answers to the requests for one page after the other: the pages hold each item once, and every answer
reports the number of items. -/
def Partition {Item : Type} (answers : Nat → Option (List Item × Int)) (items : List Item) : Prop :=
  ∃ pages : Nat → List Item, (∀ number, answers number = some (pages number,(items.length : Int))) ∧ Covers pages items

theorem Partition.iff_covers {Item : Type} {answers : Nat → Option (List Item × Int)} {items : List Item}
    {pages : Nat → List Item} (answered : ∀ number, answers number = some (pages number,(items.length : Int))) :
    Partition answers items ↔ Covers pages items := by
  constructor
  · rintro ⟨others,also,covered⟩
    have same : others = pages := by
      funext number
      exact congrArg Prod.fst (Option.some.inj ((also number).symm.trans (answered number)))
    exact same ▸ covered
  · intro covered
    exact ⟨pages,answered,covered⟩

namespace EventQuery
variable {query : EventQuery} {db : Database}

/-- Neither query of a request fails or breaks off. -/
def Serving.Undisturbed (serving : query.Serving db) : Prop := serving.counting = .none ∧ serving.reading = .none

/-- No two events with the same key are on different sides of a page boundary. -/
def Untied (query : EventQuery) (db : Database) (limit : Nat) : Prop :=
  ∀ number, Separated query.key (query.matching db) (number * limit)

theorem Untied.of_nodup (distinct : ((query.matching db).map query.key).Nodup) (limit : Nat) : query.Untied db limit :=
  fun number => .of_nodup distinct (number * limit)

theorem Untied.of_length_le {limit : Nat} (single : (query.matching db).length ≤ limit) : query.Untied db limit := by
  intro number
  cases number with
  | zero => simp [Separated]
  | succ number =>
    apply Separated.of_length_le
    rw [Nat.succ_mul]
    exact single.trans (Nat.le_add_left _ _)

theorem list_undisturbed {serving : query.Serving db} (calm : serving.Undisturbed) (limit offset : Nat) :
    query.list db serving limit offset =
      .ok ((serving.listing.page limit offset).map scanned,((query.items db).length : Int)) := by
  have natural : ¬ ((limit : Int) < 0 ∨ (offset : Int) < 0) := by omega
  rw [list,calm.1,calm.2,if_neg natural]
  simp [Relational.query,stream,items]

theorem items_nodup (query : EventQuery) (db : Database) : (query.items db).Nodup := by
  apply List.Nodup.of_map Event.id
  rw [items,List.map_map]
  exact db.events.distinct.sublist (List.filter_sublist.map _)

variable {limit : Nat}

theorem list_covers_iff {servings : Nat → query.Serving db} (calm : ∀ number, (servings number).Undisturbed) :
    Partition (fun number => (query.list db (servings number) limit (number * limit : Nat)).toOption) (query.items db) ↔
      Covers (fun number => ((servings number).listing.page limit (number * limit)).map scanned) (query.items db) := by
  apply Partition.iff_covers
  intro number
  rw [list_undisturbed (calm number)]
  rfl

theorem list_partition {servings : Nat → query.Serving db} (positive : 0 < limit)
    (calm : ∀ number, (servings number).Undisturbed) (untied : query.Untied db limit) :
    Partition (fun number => (query.list db (servings number) limit (number * limit : Nat)).toOption)
      (query.items db) :=
  (list_covers_iff calm).mpr
    ((Listing.pages_cover_iff (query.items_nodup db) positive).mpr untied fun number => (servings number).listing)

theorem list_partition_iff (positive : 0 < limit) :
    (∀ servings : Nat → query.Serving db, (∀ number, (servings number).Undisturbed) →
      Partition (fun number => (query.list db (servings number) limit (number * limit : Nat)).toOption)
        (query.items db)) ↔ query.Untied db limit := by
  constructor
  · intro whole
    apply (Listing.pages_cover_iff (query.items_nodup db) positive).mp
    intro listings
    have calm : ∀ number, Serving.Undisturbed (⟨.none,listings number,.none⟩ : query.Serving db) :=
      fun _ => ⟨rfl,rfl⟩
    exact (list_covers_iff calm).mp (whole _ calm)
  · intro untied servings calm
    exact list_partition positive calm untied

end EventQuery

namespace EventHandler

theorem respond_page (message : String) (answer : Except DbError (List Event × Int)) :
    (respond message answer).page = answer.toOption.map fun page => (page.1.map eventResponse,page.2) := by
  cases answer with
  | error error => rfl
  | ok page => rfl

theorem respond_partition {message : String} {answers : Nat → Except DbError (List Event × Int)} {items : List Event}
    (whole : Partition (fun number => (answers number).toOption) items) :
    Partition (fun number => (respond message (answers number)).page) (items.map eventResponse) := by
  obtain ⟨pages,answered,covered⟩ := whole
  refine ⟨_,?_,covered.map eventResponse⟩
  intro number
  simp only at answered
  simp only [respond_page,answered,Option.map_some,List.length_map]

theorem pageLimit_natural {limit : Nat} (positive : 0 < limit) : pageLimit limit = limit := if_neg (by omega)

/-- What the three handlers respond is `respond` of what their query lists. -/
theorem respond_pages {query : EventQuery} {db : Database} {limit : Nat} (positive : 0 < limit) (message : String)
    {servings : Nat → query.Serving db} (calm : ∀ number, (servings number).Undisturbed) (untied : query.Untied db limit) :
    Partition (fun number => (respond message
      (query.list db (servings number) (pageLimit limit) (number * limit : Nat))).page) ((query.items db).map eventResponse) := by
  simp only [pageLimit_natural positive]
  exact respond_partition (EventQuery.list_partition positive calm untied)

example (db : Database) (servings : Nat → EventQuery.pending.Serving db) (calm : ∀ number, (servings number).Undisturbed)
    (untied : EventQuery.pending.Untied db 20) :
    Partition (fun number => (listPending db (servings number) (20 : Nat) (number * 20 : Nat)).page)
      ((EventQuery.pending.items db).map eventResponse) := respond_pages (by decide) _ calm untied

end EventHandler

/-- The pages of the three listings, of requests that no query fails in, over a table that stays as it is and
has no tie at a page boundary. -/
theorem event_pages_partition (db : Database) {limit : Nat} (positive : 0 < limit) :
    (∀ servings : Nat → EventQuery.published.Serving db, (∀ number, (servings number).Undisturbed) →
      EventQuery.published.Untied db limit →
      Partition (fun number => (EventRepo.listPublished db (servings number) limit (number * limit : Nat)).toOption)
        (EventQuery.published.items db)) ∧
    (∀ servings : Nat → EventQuery.pending.Serving db, (∀ number, (servings number).Undisturbed) →
      EventQuery.pending.Untied db limit →
      Partition (fun number => (EventRepo.listPending db (servings number) limit (number * limit : Nat)).toOption)
        (EventQuery.pending.items db)) ∧
    ∀ (status : String) (servings : Nat → (EventQuery.withStatus status).Serving db),
      (∀ number, (servings number).Undisturbed) → (EventQuery.withStatus status).Untied db limit →
      Partition (fun number => (EventRepo.findAll db status (servings number) limit (number * limit : Nat)).toOption)
        ((EventQuery.withStatus status).items db) := by
  refine ⟨?_,?_,?_⟩
  · intro servings calm untied
    exact EventQuery.list_partition positive calm untied
  · intro servings calm untied
    exact EventQuery.list_partition positive calm untied
  · intro status servings calm untied
    exact EventQuery.list_partition positive calm untied

/-- Two events of an organizer, the second of which starts at a given time, before their approval. -/
def proposals (second : Time) : World :=
  (createAlone 7 {twoTypes with startAt := second} (fun _ => .none)
    (createAlone 7 twoTypes (fun _ => .none) .initial).world).world

def programme (second : Time) : World :=
  (approveAlone 3 9 (fun _ => .none) (approveAlone 0 9 (fun _ => .none) (proposals second)).world).world

/-- Undisturbed requests, the second of which meets the events with equal keys in the opposite order. -/
def EventQuery.wavering (query : EventQuery) (db : Database) (number : Nat) : query.Serving db where
  counting := .none
  listing := if number = 1 then .arranged query.key (List.reverse_perm _) else .arranged query.key (.refl _)
  reading := .none

/-- Events that start at different times, one on a page, and events that agree in their key on one page. -/
theorem event_pages_partition_programme :
    Partition (fun number => (EventRepo.listPublished (programme 2).db (EventQuery.published.wavering _ number)
      (1 : Nat) (number * 1 : Nat)).toOption) (EventQuery.published.items (programme 2).db) ∧
    Partition (fun number => (EventRepo.listPending (proposals 1).db (EventQuery.pending.wavering _ number)
      (2 : Nat) (number * 2 : Nat)).toOption) (EventQuery.pending.items (proposals 1).db) ∧
    Partition (fun number => (EventRepo.findAll (programme 1).db "published"
      ((EventQuery.withStatus "published").wavering _ number) (2 : Nat) (number * 2 : Nat)).toOption)
        ((EventQuery.withStatus "published").items (programme 1).db) := by
  refine ⟨?_,?_,?_⟩
  · exact (event_pages_partition (programme 2).db (by decide)).1 _ (fun _ => ⟨rfl,rfl⟩)
      (.of_nodup (by decide +kernel) 1)
  · exact (event_pages_partition (proposals 1).db (by decide)).2.1 _ (fun _ => ⟨rfl,rfl⟩)
      (.of_length_le (by decide +kernel))
  · exact (event_pages_partition (programme 1).db (by decide)).2.2 "published" _ (fun _ => ⟨rfl,rfl⟩)
      (.of_length_le (by decide +kernel))

/-- Two events with the same start, and the same time of creation, on pages of one: the first is listed on both
pages, the second on none, and each answer reports two. -/
theorem tied_event_listed_twice :
    let shown : Except DbError (List Event × Int) → Except DbError (List ID × Int) :=
      Except.map fun page => (page.1.map Event.id,page.2)
    ((EventQuery.published.items (programme 1).db).map Event.id = [0,3] ∧
      (List.range 3).map (fun number => shown (EventRepo.listPublished (programme 1).db
        (EventQuery.published.wavering _ number) 1 number)) = [.ok ([0],2),.ok ([0],2),.ok ([],2)]) ∧
    ((EventQuery.pending.items (proposals 1).db).map Event.id = [0,3] ∧
      (List.range 3).map (fun number => shown (EventRepo.listPending (proposals 1).db
        (EventQuery.pending.wavering _ number) 1 number)) = [.ok ([0],2),.ok ([0],2),.ok ([],2)]) ∧
    (((EventQuery.withStatus "published").items (programme 1).db).map Event.id = [0,3] ∧
      (List.range 3).map (fun number => shown (EventRepo.findAll (programme 1).db "published"
        ((EventQuery.withStatus "published").wavering _ number) 1 number)) = [.ok ([0],2),.ok ([0],2),.ok ([],2)]) := by
  decide +kernel

end Ticketbus.Ticketing
