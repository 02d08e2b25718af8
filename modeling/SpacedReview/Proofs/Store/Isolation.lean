import SpacedReview.Proofs.Card.Identity
import SpacedReview.Proofs.Store.Parts

/-!
# Users do not notice each other

All users work on one database, in any order. What a user is answered only depends on what the same
user asked before: leaving out the requests of all others changes no answer, also where others ask
for the user's cards, mark them, or save records under their identifiers.

Every answer comes from the user's part of the database. A request of the user does the same to this
part as to the whole, and a request of anyone else does nothing to it. This rests on no two users
ever adding cards with one identifier: names without zero characters keep the bytes behind the
identifiers apart, and the hash is taken to keep apart the bytes that the requests at hand have it
hash.

## Main statements

* `Request.answer_partOf`: answers come from the part of the user who asks.
* `Request.apply_partOf`: what a request does to the parts.
* `answers_filter`: the answers to a user are those that the user would get alone.
-/

namespace SpacedReview.Store

open SpacedReview.Query SpacedReview.Review SpacedReview.Time

/-! ### Requests -/

/-- What a user can ask of the database. -/
inductive Request where
  | add (card : Database.NewCard)
  | get (card : CardId)
  | count
  | search (p : Predicate Filter) (limit : Nat)
  | searchCards (query : String) (now : Instant) (limit : Nat)
  /-- The cards that a choice of a card to learn is made among. -/
  | candidates (kind : Option CardKind)
  /-- The card to learn that a choice falls on. -/
  | pick (kind : Option CardKind) (choice : Nat)
  | mark (scheduler : Scheduler) (card : CardId) (outcome : Outcome) (now : Instant)
  | load (card : CardId)
  | save (record : Record)

/-- What a user is answered. -/
inductive Answer where
  | added (result : Except Failure Card)
  | card (result : Except Failure (Option Card))
  | count (n : Nat)
  | found (result : Except Failure (List CardId))
  | cards (result : Except Failure (List Card))
  | candidates (cards : List CardId)
  | marked (result : Except Failure Record)
  | loaded (result : Except Failure (Option Record))
  | saved (result : Except Failure Unit)

namespace Request

/-- The operation that a request carries out, if it is to change anything. -/
def operation? (user : Subject) : Request → Option Operation
  | add card => some (.add user card)
  | mark scheduler card outcome now => some (.mark scheduler (some user) card outcome now)
  | save record => some (.save (some user) record)
  | _ => none

/-- The tables behind a request. -/
def apply (db : Database) (user : Subject) (request : Request) : Database :=
  (request.operation? user).elim db (·.apply db)

/-- The answer to a request. -/
def answer (db : Database) (user : Subject) : Request → Answer
  | add card => .added (db.add user card).1
  | get card => .card (db.get user card)
  | count => .count (db.count user)
  | search p limit => .found (db.search user p limit)
  | searchCards query now limit => .cards (db.searchCards (some user) query now limit)
  | candidates kind => .candidates (db.candidates user kind)
  | pick kind choice => .card (db.pick user kind choice)
  | mark scheduler card outcome now =>
    .marked (scheduler.mark Database.store db (some user) card outcome now).1
  | load card => .loaded (Database.store.loadFor db (some user) card)
  | save record => .saved (Database.store.saveFor db (some user) record).1

end Request

/-- The answers to a row of requests of users, one after the other. -/
def answers (db : Database) : List (Subject × Request) → List (Subject × Answer)
  | [] => []
  | (user, request) :: requests =>
    (user, request.answer db user) :: answers (request.apply db user) requests

/-! ### Requests and parts -/

variable {db : Database} {owner user : Subject} {owns : Subject → CardId → Prop}

namespace Database

/-- Saving a record does the same to a user's part as to the whole. -/
theorem save_partOf (howns : OneOwner owns) (hdb : db.Follows owns) (user : Subject) (r : Record) :
    (db.partOf user).save user r = (db.save user r).map id (·.partOf user) := by
  cases hcard : db.owned? user r.card with
  | none =>
    rw [save_of_not_owned hcard, save_of_not_owned (by rwa [owned?_partOf]), Prod.map_apply, id]
  | some card =>
    have howned : (db.owned? user r.card).isSome = true := Option.isSome_of_eq_some hcard
    have hrow : (db.owned? user (QuizRow.write r).id).isSome = true := howned
    have hput := partOf_putQuiz howns hdb hrow user
    rw [if_pos rfl] at hput
    rw [save_of_owned howned, save_of_owned (by rwa [owned?_partOf]), Prod.map_apply, id, hput]

/-- So does marking a card. -/
theorem mark_partOf (howns : OneOwner owns) (hdb : db.Follows owns) (user : Subject)
    (scheduler : Scheduler) (card : CardId) (outcome : Outcome) (now : Instant) :
    scheduler.mark store (db.partOf user) (some user) card outcome now =
      (scheduler.mark store db (some user) card outcome now).map id (·.partOf user) := by
  have hload : store.load (db.partOf user) user card = store.load db user card :=
    load_partOf db user card
  cases hreview : (store.load db user card).bind (scheduler.review · card outcome now) with
  | error f =>
    rw [Scheduler.mark_of_error hreview, Scheduler.mark_of_error (by rwa [hload]),
      Prod.map_apply, id]
  | ok r =>
    rw [Scheduler.mark_of_ok hreview, Scheduler.mark_of_ok (by rwa [hload])]
    show (((db.partOf user).save user r).1.map _, ((db.partOf user).save user r).2) = _
    rw [save_partOf howns hdb]
    rfl

/-- A user's record does nothing to the parts of others. -/
theorem partOf_of_save (howns : OneOwner owns) (hdb : db.Follows owns) {saved : Database}
    {r : Record} (h : db.save user r = (.ok (), saved)) (hne : user ≠ owner) :
    saved.partOf owner = db.partOf owner := by
  obtain ⟨howned, rfl⟩ := eq_putQuiz_of_save h
  rw [partOf_putQuiz howns hdb howned, if_neg hne]

end Database

namespace Request

/-- A request that adds a card adds one of its user's. -/
def KeepsTo (owns : Subject → CardId → Prop) (user : Subject) (request : Request) : Prop :=
  ∀ card, request = .add card → owns user (CardId.ofCard user card.kind card.item)

/-- A request is answered from the part of the user who asks. -/
theorem answer_partOf (howns : Database.OneOwner owns) (hdb : db.Follows owns) {request : Request}
    (hrequest : request.KeepsTo owns user) :
    request.answer (db.partOf user) user = request.answer db user := by
  cases request with
  | add card =>
    have hinsert := Database.partOf_insert howns hdb (hrequest card rfl) user
    rw [if_pos rfl] at hinsert
    simp only [answer, Database.add_eq, ← hinsert, Database.get_partOf]
  | get card => simp only [answer, Database.get_partOf]
  | count => simp only [answer, Database.count_partOf]
  | search p limit => simp only [answer, Database.search_partOf]
  | searchCards query now limit => simp only [answer, Database.searchCards_partOf]
  | candidates kind => simp only [answer, Database.candidates_partOf]
  | pick kind choice => simp only [answer, Database.pick_partOf]
  | mark scheduler card outcome now =>
    simp only [answer, Database.mark_partOf howns hdb]
    rfl
  | load card =>
    show Answer.loaded ((db.partOf user).load user card) = .loaded (db.load user card)
    rw [Database.load_partOf]
  | save record =>
    show Answer.saved ((db.partOf user).save user record).1 = .saved (db.save user record).1
    rw [Database.save_partOf howns hdb]
    rfl

/-- A request does the same to its user's part as to the whole, and nothing to the other parts. -/
theorem apply_partOf (howns : Database.OneOwner owns) (hdb : db.Follows owns) {request : Request}
    (hrequest : request.KeepsTo owns user) (owner : Subject) :
    (request.apply db user).partOf owner =
      if user = owner then request.apply (db.partOf owner) owner else db.partOf owner := by
  cases request with
  | add card =>
    show (Operation.apply db (.add user card)).partOf owner =
      if user = owner then Operation.apply (db.partOf owner) (.add owner card) else db.partOf owner
    rw [Operation.apply_add, Operation.apply_add,
      Database.partOf_insert howns hdb (hrequest card rfl)]
  | mark scheduler card outcome now =>
    show (Operation.apply db (.mark scheduler (some user) card outcome now)).partOf owner =
      if user = owner then
        Operation.apply (db.partOf owner) (.mark scheduler (some owner) card outcome now)
      else db.partOf owner
    by_cases huser : user = owner
    · subst huser
      rw [if_pos rfl, Operation.apply, Operation.apply, Database.mark_partOf howns hdb]
      rfl
    · rw [if_neg huser, Operation.apply]
      rcases h : scheduler.mark Database.store db (some user) card outcome now with ⟨_ | r, left⟩
      · rw [eq_of_mark_error h]
      · obtain ⟨_, hsession, hsave⟩ := exists_save_of_mark h
        obtain rfl := Option.some.inj hsession
        exact Database.partOf_of_save howns hdb hsave huser
  | save record =>
    show (Operation.apply db (.save (some user) record)).partOf owner =
      if user = owner then Operation.apply (db.partOf owner) (.save (some owner) record)
      else db.partOf owner
    have hstore : ∀ (db : Database) (user : Subject),
        Database.store.saveFor db (some user) record = db.save user record := fun _ _ ↦ rfl
    by_cases huser : user = owner
    · subst huser
      rw [if_pos rfl, Operation.apply, Operation.apply, hstore, hstore,
        Database.save_partOf howns hdb]
      rfl
    · rw [if_neg huser, Operation.apply, hstore]
      rcases h : db.save user record with ⟨_ | _, left⟩
      · rw [(Database.eq_of_save_error h).2.2]
      · exact Database.partOf_of_save howns hdb h huser
  | _ => exact (ite_self _).symm

/-- A request keeps to the owners. -/
theorem follows_apply (hdb : db.Follows owns) {request : Request}
    (hrequest : request.KeepsTo owns user) : (request.apply db user).Follows owns := by
  unfold apply
  cases hop : request.operation? user with
  | none => exact hdb
  | some op =>
    refine hdb.apply fun id other hid ↦ ?_
    cases request with
    | add card =>
      obtain rfl := Option.some.inj hop
      obtain ⟨rfl, rfl⟩ := Prod.mk.inj (Option.some.inj hid)
      exact hrequest card rfl
    | mark scheduler card outcome now =>
      obtain rfl := Option.some.inj hop
      cases hid
    | save record =>
      obtain rfl := Option.some.inj hop
      cases hid
    | _ => cases hop

end Request

/-! ### Runs -/

/-- If the cards that are added keep to the owners, the answers to a user are those that the user
would get alone, on the user's part. -/
theorem answers_filter_of_keepsTo (howns : Database.OneOwner owns)
    {requests : List (Subject × Request)} (hdb : db.Follows owns)
    (hrequests : ∀ r ∈ requests, r.2.KeepsTo owns r.1) (owner : Subject) :
    (answers db requests).filter (·.1 == owner) =
      answers (db.partOf owner) (requests.filter (·.1 == owner)) := by
  induction requests generalizing db with
  | nil => rfl
  | cons r requests ih =>
    obtain ⟨user, request⟩ := r
    have hrequest : request.KeepsTo owns user := hrequests (user, request) (by simp)
    have ih := ih (Request.follows_apply hdb hrequest) fun r hr ↦
      hrequests r (List.mem_cons_of_mem _ hr)
    rw [Request.apply_partOf howns hdb hrequest] at ih
    by_cases huser : user = owner
    · subst huser
      rw [if_pos rfl] at ih
      rw [answers, List.filter_cons_of_pos (by simp), List.filter_cons_of_pos (by simp), answers,
        ih, Request.answer_partOf howns hdb hrequest]
    · rw [if_neg huser] at ih
      rw [answers, List.filter_cons_of_neg (by simpa using huser),
        List.filter_cons_of_neg (by simpa using huser), ih]

/-- The bytes that identify the cards that are added by the requests. -/
def preimages (requests : List (Subject × Request)) : Set (List UInt8) :=
  {bytes | ∃ user card, (user, Request.add card) ∈ requests ∧
    CardId.preimage user card.kind card.item = bytes}

/-- The answers to a user are those that the user would get if nobody else had asked for anything.
No name has a zero character in it, and the hash tells the bytes of the added cards apart. -/
theorem answers_filter (requests : List (Subject × Request)) (owner : Subject)
    (hnames : ∀ r ∈ requests, '\x00' ∉ r.1.name.toList)
    (hhash : Set.InjOn Digest.Blake3.hash (preimages requests)) :
    (answers .empty requests).filter (·.1 == owner) =
      answers .empty (requests.filter (·.1 == owner)) := by
  -- whoever adds a card in this run owns it, whether or not the addition comes first
  let owns (user : Subject) (id : CardId) : Prop :=
    ∃ card, (user, Request.add card) ∈ requests ∧ CardId.ofCard user card.kind card.item = id
  have howns : Database.OneOwner owns := by
    rintro user user' id ⟨card, hcard, rfl⟩ ⟨card', hcard', heq⟩
    have hbytes : CardId.preimage user' card'.kind card'.item =
        CardId.preimage user card.kind card.item :=
      hhash ⟨user', card', hcard', rfl⟩ ⟨user, card, hcard, rfl⟩ (congrArg CardId.digest heq)
    exact (CardId.eq_of_preimage_eq (hnames _ hcard') (hnames _ hcard) hbytes).1.symm
  refine answers_filter_of_keepsTo howns .empty ?_ owner
  rintro ⟨user, request⟩ hr card rfl
  exact ⟨card, hr, rfl⟩

/-- A user who adds the same card, saves a record under the identifier of another user's card and
marks it changes nothing of what the other user is answered. -/
theorem answers_filter_of_intruder :
    let alice : Subject := ⟨"alice"⟩
    let bob : Subject := ⟨"bob"⟩
    let card : Database.NewCard := ⟨.hanzi, "学", none, []⟩
    let id := CardId.ofCard alice .hanzi "学"
    (answers .empty [(alice, .add card), (bob, .add card), (bob, .save ⟨id, 5, .epoch, .initial⟩),
      (bob, .mark .standard id .right .epoch), (alice, .load id), (alice, .count)]).filter
        (·.1 == alice) =
      answers .empty [(alice, .add card), (alice, .load id), (alice, .count)] := by
  intro alice bob card id
  have hapart : Digest.Blake3.hash (CardId.preimage alice .hanzi "学") ≠
      Digest.Blake3.hash (CardId.preimage bob .hanzi "学") := by
    decide +kernel
  refine answers_filter _ alice (by simp [alice, bob]) ?_
  have huser : ∀ {user : Subject} {new : Database.NewCard}, (user, Request.add new) ∈
      [(alice, .add card), (bob, .add card), (bob, .save ⟨id, 5, .epoch, .initial⟩),
        (bob, .mark .standard id .right .epoch), (alice, .load id), (alice, .count)] →
      (user = alice ∨ user = bob) ∧ new = card := by
    intro user new hmem
    simpa [← or_and_right] using hmem
  rintro _ ⟨user, new, hmem, rfl⟩ _ ⟨user', new', hmem', rfl⟩ hsame
  obtain ⟨hcase, rfl⟩ := huser hmem
  obtain ⟨hcase', rfl⟩ := huser hmem'
  rcases hcase with rfl | rfl <;> rcases hcase' with rfl | rfl
  · rfl
  · exact absurd hsame hapart
  · exact absurd hsame.symm hapart
  · rfl

end SpacedReview.Store
